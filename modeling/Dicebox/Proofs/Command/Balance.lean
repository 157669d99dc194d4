import Dicebox.Proofs.Command.Entries

/-!
# The books of throws and the books of commands agree

A throw is counted twice, once as a throw and once as what a command answered, and the two entries
are made in different places. The books agree nevertheless,

> **whatever commands are given, and however they end,**

because an invocation enters both or neither (`Call.book_run_cases`). The invariant is `Balanced`;
it is kept by one invocation (`Balanced.run`) and so by any number of them (`Balanced.runAll`).
-/

set_option autoImplicit false

namespace Dicebox

-- The sum of a list starts from core's own zero, whatever else is imported.
attribute [local instance (high)] Zero.ofOfNat0

/-! ## The balance

The balance would be enough for the counters alone. It has three more equations, for the histogram,
because the first of these does not hold of a histogram by itself: that it has as many entries as
throws were finished is true only of books that are kept by throws. -/

/-- The books of throws and those of the commands agree with each other, and with a number of
dice. -/
structure Balanced (m : Metrics) (dice : Nat) : Prop where
  success : m.read (.success .throws) = m.read (.success .roll) + m.read (.success .randomness)
  mistake (kind : String) : m.read (.mistake .throws kind) =
    m.read (.mistake .roll kind) + m.read (.mistake .randomness kind)
  count : ((m.histogram dieCountHistogram).count : Int) = m.read (.success .throws)
  buckets : (m.histogram dieCountHistogram).total = (m.histogram dieCountHistogram).count
  sum : (m.histogram dieCountHistogram).sum = dice

namespace Balanced

variable {m : Metrics} {n : Nat} {ledger : Ledger}

theorem empty : Balanced .empty 0 := ⟨rfl, fun _ => rfl, rfl, rfl, rfl⟩

/-- A mistake goes to two counters, which stand on the two sides of one equation. That the histogram
does not move is a part of the lemma, for its number of entries is held against a counter. -/
theorem mistaken (h : Balanced m n) (hledger : ledger ≠ .throws) (kind : String) :
    Balanced ((m.add (Counter.mistake .throws kind).name 1).add
      (Counter.mistake ledger kind).name 1) n := by
  refine ⟨?_, fun k => ?_, ?_, h.buckets, h.sum⟩
  · simpa [Metrics.read_add] using h.success
  · have hbefore := h.mistake k
    simp only [Metrics.read_add, Counter.mistake.injEq]
    -- Only the counters of this one kind have moved, one on each side.
    by_cases hk : k = kind
    · subst hk
      cases ledger with
      | throws => exact absurd rfl hledger
      | roll => simp; omega
      | randomness => simp; omega
    · simpa [hk] using hbefore
  · show ((m.histogram dieCountHistogram).count : Int) = _
    simpa [Metrics.read_add] using h.count

theorem thrown {dice : Nat} {after : Metrics} (h : Balanced m n) (hledger : ledger ≠ .throws)
    (hthrown : EntersThrow dice m after) :
    Balanced (after.add (Counter.success ledger).name 1) (n + dice) := by
  refine ⟨?_, fun k => ?_, ?_, ?_, ?_⟩
  -- The counter of the throw is moved by `EntersThrow`, that of the command is moved afterwards.
  · have hbefore := h.success
    simp only [Metrics.read_add, hthrown.read, Counter.success.injEq]
    cases ledger with
    | throws => exact absurd rfl hledger
    | roll => simp; omega
    | randomness => simp; omega
  · simpa [Metrics.read_add, hthrown.read] using h.mistake k
  · have hbefore := h.count
    show ((after.histogram dieCountHistogram).count : Int) = _
    rw [hthrown.count, Metrics.read_add, hthrown.read, if_pos rfl,
      if_neg fun hsame => hledger (Counter.success.inj hsame).symm]
    push_cast
    omega
  · show (after.histogram dieCountHistogram).total = (after.histogram dieCountHistogram).count
    rw [hthrown.total, hthrown.count, h.buckets]
  · show (after.histogram dieCountHistogram).sum = _
    rw [hthrown.sum, h.sum]
    push_cast
    rfl

/-- One invocation keeps the balance, for it ends in one of three ways and all of them do. -/
theorem run (h : Balanced m n) (c : Call) : Balanced (m.book c.run.events) (n + c.dice) := by
  rcases c.book_run_cases m with ⟨hm, hdice⟩ | ⟨kind, hm, hdice⟩ | ⟨after, hthrown, hm⟩
  · rw [hm, hdice]
    exact h
  · rw [hm, hdice]
    exact h.mistaken c.ledger_ne_throws kind
  · rw [hm]
    exact h.thrown c.ledger_ne_throws hthrown

theorem runAll (h : Balanced m n) (calls : List Call) :
    Balanced (calls.foldl (fun m c => m.book c.run.events) m) (n + (calls.map Call.dice).sum) := by
  -- The books and the dice so far are generalized: the calls that follow start from other ones.
  induction calls generalizing m n with
  | nil => exact h
  | cons c rest ih =>
    rw [List.foldl_cons, List.map_cons, List.sum_cons, ← Nat.add_assoc]
    exact ih (h.run c)

end Balanced

/-! ## One invocation

Balanced books could still be moved by more than one at a time, in several counters that sum up.
How far an invocation moves them is read off its three ways once more. -/

theorem isCommandName_success {ledger : Ledger} :
    isCommandName (Counter.success ledger).name = decide (ledger ≠ .throws) := by
  cases ledger <;> decide

theorem isCommandName_mistake {ledger : Ledger} (kind : String) :
    isCommandName (Counter.mistake ledger kind).name = decide (ledger ≠ .throws) := by
  have hname : isCommandName (Counter.mistake ledger kind).name =
      ("roll.".toList.isPrefixOf (ledger.mistakePrefix ++ kind).toList ||
        "randomness.".toList.isPrefixOf (ledger.mistakePrefix ++ kind).toList) := rfl
  rw [hname]
  cases ledger <;> simp [Ledger.mistakePrefix, List.isPrefixOf]

theorem commandTotal_run (m : Metrics) (c : Call) :
    m.commandTotal ≤ (m.book c.run.events).commandTotal ∧
    (m.book c.run.events).commandTotal ≤ m.commandTotal + 1 := by
  have hledger := decide_eq_true c.ledger_ne_throws
  rcases c.book_run_cases m with ⟨hm, -⟩ | ⟨kind, hm, -⟩ | ⟨after, hthrown, hm⟩
  · rw [hm]
    omega
  · rw [hm, Metrics.commandTotal_add, Metrics.commandTotal_add, isCommandName_mistake,
      isCommandName_mistake, hledger, if_pos rfl, if_neg (by decide)]
    omega
  · -- What the throw itself enters is under no name of a command.
    have hafter : after.commandTotal = m.commandTotal := by
      rw [Metrics.commandTotal, hthrown.counters]
      show (m.add _ 1).commandTotal = m.commandTotal
      rw [Metrics.commandTotal_add, if_neg (by decide), Int.add_zero]
    rw [hm, Metrics.commandTotal_add, isCommandName_success, hledger, if_pos rfl, hafter]
    omega

/-- No invocation is counted as an answer and as a mistake. -/
theorem read_run (m : Metrics) (c : Call) :
    (∀ ledger, (m.book c.run.events).read (.success ledger) = m.read (.success ledger)) ∨
    (∀ ledger kind,
      (m.book c.run.events).read (.mistake ledger kind) = m.read (.mistake ledger kind)) := by
  rcases c.book_run_cases m with ⟨hm, -⟩ | ⟨kind, hm, -⟩ | ⟨after, hthrown, hm⟩
  · rw [hm]
    exact Or.inl fun ledger => rfl
  · rw [hm]
    refine Or.inl fun ledger => ?_
    simp [Metrics.read_add]
  · rw [hm]
    refine Or.inr fun ledger kind => ?_
    simp [Metrics.read_add, hthrown.read]

/-- **The books balance after any invocations of the two commands**, in any order, with any options
and settings, and however each of them ends. Each invocation adds at most one to all counters of the
commands together, and never both for an answer and for a mistake. -/
theorem calls_balance (calls : List Call) :
    Balanced (calls.foldl (fun m c => m.book c.run.events) .empty) (calls.map Call.dice).sum ∧
    ∀ (m : Metrics) (c : Call),
      (m.commandTotal ≤ (m.book c.run.events).commandTotal ∧
        (m.book c.run.events).commandTotal ≤ m.commandTotal + 1) ∧
      ((∀ ledger, (m.book c.run.events).read (.success ledger) = m.read (.success ledger)) ∨
        ∀ ledger kind,
          (m.book c.run.events).read (.mistake ledger kind) = m.read (.mistake ledger kind)) := by
  refine ⟨?_, fun m c => ⟨commandTotal_run m c, read_run m c⟩⟩
  have hrun := Balanced.empty.runAll calls
  rwa [Nat.zero_add] at hrun

end Dicebox
