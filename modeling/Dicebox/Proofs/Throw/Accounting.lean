import Dicebox.Proofs.Metrics.Accounts
import Dicebox.Proofs.Run.Recording
import Dicebox.Proofs.Throw.Refusals

/-!
# Every throw is accounted for

`evaluateText` reads a text, throws what it has read and keeps account of how that ended. Two things
can end it with a mistake, the reading and the dice, and the books do not tell them apart. They need
not:

> **a mistake is found before the first draw, or never.**

The dice are rolled with a side count that reading has let through, so their own check of it cannot
fail (`rollDatum_sides`), and `Throw.evaluate` does without. What remains is a source that hands out
a mistake in the place of a draw, and none does (`Source.IsBlameless`).

What is entered depends on the result alone (`entriesOf`): one counter for a mistake; the number of
dice and one counter for a finished throw; nothing for any other fault.
-/

set_option autoImplicit false

namespace Dicebox

/-! ## The entries of a throw from a text

A throw from a text has three parts: it is announced, carried out, and accounted for. Only the last
of them enters anything into the books, and it sees nothing of the second but its result. -/

/-- What a throw from a text enters into the books, by its result. -/
def entriesOf : Except Fault Outcome → List Event
  | .ok o => [.observed dieCountHistogram (.int o.thrown.dieCount), .counted "dice.evaluate.ok"]
  | .error (.dice e) => [.counted ("dice.evaluate.error." ++ e.kind)]
  | .error _ => []

theorem Throw.onlyLogs_parse (given : Datum) (limits : Limits) :
    (Throw.parse given limits).OnlyLogs := by
  unfold parse
  split
  · split
    · exact Run.onlyLogs_of_events rfl rfl
    · split
      · exact Run.onlyLogs_of_events rfl rfl
      · exact Run.onlyLogs_ofExcept _
  · exact Run.onlyLogs_ofExcept _

theorem Throw.booked_parse (given : Datum) (limits : Limits) :
    booked (Throw.parse given limits).events = [] := (onlyLogs_parse given limits).unbooked

@[simp] theorem booked_openingEvents (watched : Bool) (given : Datum) :
    booked (openingEvents watched given) = [] := by
  cases watched <;> rfl

section

variable (watched : Bool) {given : Datum} {limits : Limits} (s : Source)

theorem evaluateText_of_parse_error {fault : Fault}
    (h : (Throw.parse given limits).result = .error fault) :
    evaluateText watched given limits s =
      (⟨openingEvents watched given ++ (Throw.parse given limits).events ++
        accountEvents given (.error fault), .error fault⟩, s) := by
  simp only [evaluateText, readAndThrow, h]

theorem evaluateText_of_parse {t : Throw} (h : (Throw.parse given limits).result = .ok t) :
    evaluateText watched given limits s =
      (⟨openingEvents watched given ++
          ((Throw.parse given limits).events ++ (t.evaluate watched s).1.events) ++
          accountEvents given (t.evaluate watched s).1.result, (t.evaluate watched s).1.result⟩,
        (t.evaluate watched s).2) := by
  simp only [evaluateText, readAndThrow, h]

theorem result_of_parse {t : Throw} (h : (Throw.parse given limits).result = .ok t) :
    (evaluateText watched given limits s).1.result = (t.evaluate watched s).1.result := by
  rw [evaluateText_of_parse watched s h]

theorem rest_of_parse {t : Throw} (h : (Throw.parse given limits).result = .ok t) :
    (evaluateText watched given limits s).2 = (t.evaluate watched s).2 := by
  rw [evaluateText_of_parse watched s h]

/-- What is finished is the throw that has been read, with the faces of its dice, all of which were
rolled. -/
theorem parse_of_evaluateText {o : Outcome}
    (h : (evaluateText watched given limits s).1.result = .ok o) :
    (Throw.parse given limits).result = .ok o.thrown ∧
    o.faces = (rollDice o.thrown.sides o.thrown.dieCount s).faces ∧
    (rollDice o.thrown.sides o.thrown.dieCount s).stopped = none := by
  cases hread : (Throw.parse given limits).result with
  | error fault =>
    rw [evaluateText_of_parse_error watched s hread] at h
    cases h
  | ok t =>
    rw [result_of_parse watched s hread] at h
    rcases t.evaluate_cases watched s with ⟨fault, hfault, -⟩ | ⟨hstopped, hok, -⟩
    · rw [h] at hfault
      cases hfault
    · rw [h] at hok
      cases hok
      exact ⟨rfl, rfl, hstopped⟩

/-- A mistake comes of reading and never of the dice: had the text been read, it would have to come
from a die that was not rolled, and what stops a die on such a source is no mistake. -/
theorem parse_error_of_evaluateText (hs : s.IsBlameless) {e : DiceError}
    (h : (evaluateText watched given limits s).1.result = .error (.dice e)) :
    (Throw.parse given limits).result = .error (.dice e) := by
  cases hread : (Throw.parse given limits).result with
  | error fault =>
    rw [evaluateText_of_parse_error watched s hread] at h
    cases h
    rfl
  | ok t =>
    rw [result_of_parse watched s hread] at h
    rcases t.evaluate_cases watched s with ⟨fault, hfault, -, hwhy⟩ | ⟨-, hok, -⟩
    · rw [h] at hfault
      cases hfault
      rcases hwhy with ⟨-, hlong⟩ | hstopped
      · cases hlong
      · exact absurd hstopped (rollDice_stopped hs e)
    · rw [h] at hok
      cases hok

theorem booked_evaluateText (given : Datum) (limits : Limits) :
    booked (evaluateText watched given limits s).1.events =
      entriesOf (evaluateText watched given limits s).1.result := by
  have haccount : ∀ fault,
      booked (accountEvents given (.error fault)) = entriesOf (.error fault) := by
    intro fault
    cases fault <;> rfl
  cases hread : (Throw.parse given limits).result with
  | error fault =>
    rw [evaluateText_of_parse_error watched s hread]
    simp only [booked_append, booked_openingEvents, Throw.booked_parse, haccount, List.nil_append]
  | ok t =>
    rw [evaluateText_of_parse watched s hread]
    simp only [booked_append, booked_openingEvents, Throw.booked_parse, List.nil_append]
    rcases t.evaluate_cases watched s with ⟨fault, hresult, hbooked, -⟩ | ⟨-, hresult, hbooked, -⟩
    · rw [hbooked, hresult, haccount, List.nil_append]
    · rw [hbooked, hresult]
      rfl

end

/-! ## The account

The histogram of dice is given by its counts, its sum and its buckets, and of each it is said by how
much it grows. The histogram of any other name is the very same one. -/

/-- How a finished throw of `n` dice changes the books: it is counted, the number of its dice enters
the histogram once and into one bucket, and all other accounts stay as they are. -/
structure EntersThrow (n : Nat) (before after : Metrics) : Prop where
  counters : after.counters = (before.add "dice.evaluate.ok" 1).counters
  histogram (name : Name) : (name == .text dieCountHistogram) = false →
    after.histogram name = before.histogram name
  count : (after.histogram dieCountHistogram).count =
    (before.histogram dieCountHistogram).count + 1
  sum : (after.histogram dieCountHistogram).sum = (before.histogram dieCountHistogram).sum + n
  bucket : ∃ bucket, IsStandardBucket n bucket ∧ ∀ label,
    (after.histogram dieCountHistogram).bucketCount label =
      (before.histogram dieCountHistogram).bucketCount label +
        if label = bucket.label then 1 else 0
  total : (after.histogram dieCountHistogram).total =
    (before.histogram dieCountHistogram).total + 1

theorem entersThrow_book (m : Metrics) (o : Outcome) :
    EntersThrow o.thrown.dieCount m (m.book (entriesOf (.ok o))) := by
  obtain ⟨bucket, hbucket, hobserve⟩ :=
    m.exists_observe_int (.text dieCountHistogram) o.thrown.dieCount
  have hbook : m.book (entriesOf (.ok o)) =
      (m.put dieCountHistogram (((m.histogram dieCountHistogram).enter bucket).tally
        o.thrown.dieCount)).add "dice.evaluate.ok" 1 := congrArg (Metrics.add · _ 1) hobserve
  -- The counter comes last, and does not touch the histograms any more.
  have hself : (Name.text dieCountHistogram == .text dieCountHistogram) = true := BEq.rfl
  have hhistogram := (Metrics.histogram_put m dieCountHistogram dieCountHistogram
    (((m.histogram dieCountHistogram).enter bucket).tally o.thrown.dieCount)).trans (if_pos hself)
  rw [hbook]
  exact
    { counters := rfl
      histogram := fun name hname => by
        show (m.put _ _).histogram name = m.histogram name
        rw [Metrics.histogram_put, if_neg (Bool.eq_false_iff.mp hname)]
      count := congrArg Histogram.count hhistogram
      sum := congrArg Histogram.sum hhistogram
      bucket := by
        refine ⟨bucket, hbucket, fun label => ?_⟩
        have hcount := congrArg (Histogram.bucketCount · label) hhistogram
        exact hcount.trans ((m.histogram dieCountHistogram).bucketCount_enter bucket label)
      total := (congrArg Histogram.total hhistogram).trans
        ((m.histogram dieCountHistogram).total_enter bucket) }

theorem steps_of_parse_error (watched : Bool) (given : Datum) (limits : Limits) (e : DiceError) :
    (openingEvents watched given ++ (Throw.parse given limits).events ++
        accountEvents given (.error (.dice e))).filterMap Event.line? =
      if watched then ["Throwing dice from string " ++ given.display] else [] := by
  have hnone : (Throw.parse given limits).events.filterMap Event.line? = [] :=
    (Throw.onlyLogs_parse given limits).steps
  rw [List.filterMap_append, List.filterMap_append, hnone, List.append_nil]
  cases watched <;> rfl

/-- **A throw from a text is accounted for, and a mistake in it is found before the first draw.** If
reading finds one, nothing else happens: it is the result, the source is as it was, the watcher has
seen one line, and one counter has gone up. If the throw is finished, it is the throw that has been
read, on the same draws, and it is entered once. And there are no mistakes but those that reading
finds, of which an impossible number of sides is none: what has been read can be rolled. -/
theorem evaluateText_accounts (watched : Bool) (text : String) (limits : Limits) (s : Source) :
    let reading := (Throw.parse (.text text) limits).result
    let thrown := (evaluateText watched (.text text) limits s).1
    let rest := (evaluateText watched (.text text) limits s).2
    (∀ e, reading = .error (.dice e) →
      thrown.result = .error (.dice e) ∧ rest = s ∧
      thrown.steps = (if watched then ["Throwing dice from string " ++ text] else []) ∧
      ∀ m : Metrics, m.book thrown.events = m.add ("dice.evaluate.error." ++ e.kind) 1) ∧
    (∀ o, thrown.result = .ok o →
      reading = .ok o.thrown ∧ (o.thrown.evaluate watched s).1.result = .ok o ∧
      (o.thrown.evaluate watched s).2 = rest ∧
      (∀ m : Metrics, EntersThrow o.thrown.dieCount m (m.book thrown.events)) ∧
      (limits = {} → o.thrown.dieCount ≤ 100000)) ∧
    (s.IsBlameless → ∀ e, thrown.result = .error (.dice e) →
      reading = .error (.dice e) ∧ rest = s ∧ ∀ sides, e ≠ .invalidSides sides) ∧
    (∀ t, reading = .ok t → ∀ s', rollDatum (.int t.sides) s' = rollDie t.sides s') := by
  intro reading thrown rest
  have hbooked : booked thrown.events = entriesOf thrown.result :=
    booked_evaluateText watched s (.text text) limits
  have hfailed : ∀ fault, reading = .error fault → thrown.result = .error fault ∧ rest = s := by
    intro fault hread
    have heval := evaluateText_of_parse_error watched s hread
    exact ⟨by rw [show thrown = _ from congrArg Prod.fst heval], congrArg Prod.snd heval⟩
  refine ⟨fun e he => ?_, fun o ho => ?_, fun hs e he => ?_, fun t _ => rollDatum_sides t⟩
  · obtain ⟨hresult, hrest⟩ := hfailed _ he
    refine ⟨hresult, hrest, ?_, fun m => ?_⟩
    · have heval := evaluateText_of_parse_error watched s he
      rw [show thrown = _ from congrArg Prod.fst heval]
      exact steps_of_parse_error watched (.text text) limits e
    · rw [← m.book_booked, hbooked, hresult]
      rfl
  · have hreading : reading = .ok o.thrown := (parse_of_evaluateText watched s ho).1
    refine ⟨hreading, ?_, ?_, fun m => ?_, fun hlimits => ?_⟩
    · rw [← result_of_parse watched s hreading]
      exact ho
    · rw [← rest_of_parse watched s hreading]
    · rw [← m.book_booked, hbooked, ho]
      exact entersThrow_book m o
    · have hmax := Throw.dieCount_le_of_parse hreading (congrArg Limits.maxDice hlimits)
      exact Int.ofNat_le.mp hmax
  · have hreading := parse_error_of_evaluateText watched s hs he
    exact ⟨hreading, (hfailed _ hreading).2, Throw.ne_invalidSides_of_parse hreading⟩

/-- A text that breaks off is refused before a generator is asked for anything. Two dice find the
faces of two draws, and are entered into empty books as two dice. -/
theorem evaluateText_accounts_two_texts :
    let s := Source.seeded 7
    let refused := evaluateText true (.text "3 d") {} s
    let script : Source := .scripted ([0, 2 ^ 52].map fun k => .ok (.fraction k))
    let finished := evaluateText true (.text "2d6") {} script
    (refused.1.result = .error (.dice (.invalidNotation (.text "3 d") none)) ∧ refused.2 = s ∧
      refused.1.steps = ["Throwing dice from string 3 d"] ∧
      (Metrics.empty.book refused.1.events).counter "dice.evaluate.error.invalid_notation" = 1) ∧
    (∃ o, finished.1.result = .ok o ∧ o.faces = [1, 4] ∧ o.total = 5 ∧
      (Throw.parse (.text "2d6") {}).result = .ok o.thrown ∧
      (o.thrown.evaluate true script).1.result = .ok o ∧
      (o.thrown.evaluate true script).2 = finished.2 ∧
      EntersThrow 2 Metrics.empty (Metrics.empty.book finished.1.events)) := by
  intro s refused script finished
  constructor
  · have hread : (Throw.parse (.text "3 d") {}).result =
        .error (.dice (.invalidNotation (.text "3 d") none)) := rfl
    obtain ⟨hresult, hrest, hsteps, hbook⟩ :=
      (evaluateText_accounts true "3 d" {} s).1 _ hread
    refine ⟨hresult, hrest, hsteps, ?_⟩
    rw [hbook, Metrics.counter_add]
    rfl
  · have hthrown : finished.1.result.toOption.map
        (fun o => (o.faces, o.total, o.thrown.dieCount)) = some ([1, 4], 5, 2) := by
      decide +kernel
    obtain ⟨o, ho, hfields⟩ := exists_of_map_toOption hthrown
    obtain ⟨hfaces, hfields⟩ := Prod.mk.inj hfields
    obtain ⟨htotal, hdice⟩ := Prod.mk.inj hfields
    have hfinished : finished = evaluateText true (.text "2d6") {} script := rfl
    obtain ⟨-, haccount, -⟩ := evaluateText_accounts true "2d6" {} script
    rw [← hfinished] at haccount
    obtain ⟨hread, hresult, hrest, hentered, -⟩ := haccount o ho
    exact ⟨o, ho, hfaces, htotal, hread, hresult, hrest, hdice ▸ hentered Metrics.empty⟩

end Dicebox
