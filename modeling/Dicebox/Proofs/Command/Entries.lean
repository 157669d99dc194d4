import Dicebox.Command.Registry
import Dicebox.Proofs.Report.Reporting
import Dicebox.Proofs.Settings.Recording

/-!
# What an invocation enters into the books

Throws and commands keep counters of one pattern, so a counter is a `Counter` here, of some
`Ledger`, and its name says which (`Counter.name_injective`). The kind of a mistake can be any text,
and no kind makes one counter look like another.

An invocation of a command makes at most one throw (`Call.thrown?`), and

> **how that throw ends tells all that the invocation enters** (`Call.booked_run`):

the entries of the throw, and one of the command. Between the two a report may have to be made, and
nothing can go wrong with that: a seeded generator rolls no face that the tabulation does not know.
After them the answer is put together and sent, which may fail and enters nothing.
`Call.book_run_cases` sums this up.
-/

set_option autoImplicit false

namespace Dicebox

open Run

/-! ## The counters

Counters are found by their names, and the names are put together: of a prefix, and of a kind that
comes with the mistake. So it has to be shown that counting one of them leaves the others alone.
That is all about names that is needed (`Metrics.read_add`), and nothing below looks at a name. -/

/-- Who keeps counters: the throws, and each of the commands. -/
inductive Ledger
  | throws
  | roll
  | randomness
  deriving DecidableEq

namespace Ledger

/-- The name under which an answer is counted. -/
def successName : Ledger → String
  | .throws => "dice.evaluate.ok"
  | .roll => "roll.ok"
  | .randomness => "randomness.ok"

/-- What the names of counters of mistakes begin with. The kind of mistake follows. -/
def mistakePrefix : Ledger → String
  | .throws => "dice.evaluate.error."
  | .roll => "roll.error."
  | .randomness => "randomness.error."

end Ledger

/-- A counter: of what went well, or of a kind of mistake. -/
inductive Counter
  | success (ledger : Ledger)
  | mistake (ledger : Ledger) (kind : String)
  deriving DecidableEq

namespace Counter

/-- The name that the counter has in the books. -/
def name : Counter → String
  | .success ledger => ledger.successName
  | .mistake ledger kind => ledger.mistakePrefix ++ kind

theorem success_ne_mistake (ledger other : Ledger) (kind : String) :
    (success ledger).name ≠ (mistake other kind).name := by
  intro h
  have hlist : ledger.successName.toList = (other.mistakePrefix ++ kind).toList :=
    congrArg String.toList h
  -- The first characters tell the ledgers apart, and within one `ok` from `error`.
  cases ledger <;> cases other <;> simp [Ledger.successName, Ledger.mistakePrefix] at hlist

theorem mistake_injective {ledger other : Ledger} {kind kind' : String}
    (h : (mistake ledger kind).name = (mistake other kind').name) :
    ledger = other ∧ kind = kind' := by
  have hlist : (ledger.mistakePrefix ++ kind).toList = (other.mistakePrefix ++ kind').toList :=
    congrArg String.toList h
  have hsame : ledger = other := by
    cases ledger <;> cases other <;> first | rfl | simp [Ledger.mistakePrefix] at hlist
  subst hsame
  exact ⟨rfl, (String.append_right_inj ledger.mistakePrefix).mp h⟩

/-- Different counters have different names, whatever the kinds of mistakes are called. -/
theorem name_injective {a b : Counter} (h : a.name = b.name) : a = b := by
  cases a with
  | success ledger =>
    cases b with
    | success other =>
      have hname : ledger.successName = other.successName := h
      revert hname
      cases ledger <;> cases other <;> decide
    | mistake other kind => exact absurd h (success_ne_mistake ledger other kind)
  | mistake ledger kind =>
    cases b with
    | success other => exact absurd h.symm (success_ne_mistake other ledger kind)
    | mistake other kind' =>
      obtain ⟨rfl, rfl⟩ := mistake_injective h
      rfl

end Counter

/-- How far a counter has come. -/
def Metrics.read (m : Metrics) (c : Counter) : Int := m.counter c.name

/-- Counting moves the counter that is meant and no other. Names are compared by their keys, and
different counters have different texts for keys. -/
theorem Metrics.read_add (m : Metrics) (a b : Counter) :
    (m.add a.name 1).read b = m.read b + if b = a then 1 else 0 := by
  have hname : (Name.text b.name == .text a.name) = true ↔ b = a := by
    rw [Name.text_beq, beq_iff_eq]
    exact ⟨Counter.name_injective, congrArg Counter.name⟩
  rw [read, read, counter_add]
  by_cases h : b = a
  · rw [if_pos h, if_pos (hname.mpr h)]
  · rw [if_neg h, if_neg fun hsame => h (hname.mp hsame)]

/-! ## The counters of the commands together -/

/-- Whether a counter is one of a command, by what its name begins with. -/
def isCommandName (name : Name) : Bool :=
  match name.key with
  | .text name =>
    "roll.".toList.isPrefixOf name.toList || "randomness.".toList.isPrefixOf name.toList
  | _ => false

/-- The sum of all counters of the commands. -/
def Metrics.commandTotal (m : Metrics) : Int := m.counters.valueSum isCommandName

theorem isCommandName_congr (a b : Name) (h : (a == b) = true) :
    isCommandName a = isCommandName b := by
  rw [isCommandName, isCommandName, Name.beq_iff.mp h]

theorem Metrics.commandTotal_add (m : Metrics) (name : Name) (n : Int) :
    (m.add name n).commandTotal = m.commandTotal + if isCommandName name then n else 0 :=
  OrderedMap.valueSum_insert isCommandName_congr m.counters name n

/-! ## What an invocation enters

The two commands go different ways, one to a throw and one to a report on it, and yet enter the same
things in the same order. So they are described together, by how their throw ends. -/

/-- An invocation of one of the two commands, with options. -/
inductive Call
  | roll (inv : Command.Invocation) (o : RollOptions)
  | randomness (inv : Command.Invocation) (o : RandomnessOptions)

namespace Call

/-- The ledger in which the command counts how its calls end. -/
def ledger : Call → Ledger
  | .roll _ _ => .roll
  | .randomness _ _ => .randomness

/-- What the command does, given its options. -/
def run : Call → Run Unit
  | .roll inv o => Command.act inv (.roll o)
  | .randomness inv o => Command.act inv (.randomness o)

/-- How the throw ends that the command makes; `none` if it does not come to throw. -/
def thrown? : Call → Option (Except Fault Outcome)
  | .roll inv o =>
    (Command.settingsOf inv).result.toOption.bind fun settings =>
      (Limits.ofAttributes (some settings)).toOption.map fun limits =>
        (evaluateText o.verbose (.text (if o.expr = "" then defaultRollText else o.expr)) limits
          (.seeded inv.entropy)).1.result
  | .randomness inv o =>
    (Command.settingsOf inv).result.toOption.bind fun settings =>
      (Limits.ofAttributes (some settings)).toOption.map fun limits =>
        (evaluateText false (reportExpr o settings) limits
          ((o.seed.map Source.seeded).getD (.seeded inv.entropy))).1.result

/-- The number of dice of a call, if its throw was finished. -/
def dice (c : Call) : Nat :=
  match c.thrown? with
  | some (.ok o) => o.thrown.dieCount
  | _ => 0

end Call

/-- What a command enters into the books after a throw of its own. -/
def answerEntries (ledger : Ledger) : Except Fault Outcome → List Event
  | .ok _ => [.counted (Counter.success ledger).name]
  | .error (.dice e) => [.counted (Counter.mistake ledger e.kind).name]
  | .error _ => []

/-- What an invocation enters: its throw and its answer, or neither. -/
def callEntries (ledger : Ledger) : Option (Except Fault Outcome) → List Event
  | none => []
  | some result => entriesOf result ++ answerEntries ledger result

theorem unbooked_send (content : String) (ephemeral : Bool) : (send content ephemeral).Unbooked :=
  rfl

theorem unbooked_sendMistake (separator expr : Datum) (e : DiceError) :
    (sendMistake separator expr e).Unbooked := by
  unfold sendMistake
  exact (unbooked_ofExcept _).bind fun content => unbooked_send content true

theorem booked_answerRoll (o : RollOptions) (separator : Datum) (expr : String) (userId : Datum)
    (steps : List String) (result : Except Fault Outcome) :
    booked (answerRoll o separator expr userId steps result).events =
      answerEntries .roll result := by
  unfold answerRoll
  split
  -- The counter is moved before anything is sent, so it does not matter if sending fails.
  · next e => exact booked_emit_of_unbooked _ (unbooked_sendMistake separator (.text expr) e)
  · next fault hnot =>
    cases fault with
    | dice e => exact absurd rfl (hnot e)
    | _ => rfl
  · next outcome =>
    have hanswer : (do
        send (← .ofExcept (joinLines separator outcome.messages)) false
        emit [.logged (.info "command.roll.sent"
          [("expr", .text expr), ("total", .int outcome.total),
            ("dice", .int outcome.faces.length), ("user_id", userId)])] : Run Unit).Unbooked := by
      refine (unbooked_ofExcept _).bind fun content => ?_
      exact (unbooked_send content false).bind fun _ => rfl
    refine booked_emit_of_unbooked [.counted "roll.ok"] ?_
    split
    · refine (unbooked_ofExcept _).bind fun content => ?_
      exact (unbooked_send content true).bind fun _ => hanswer
    · exact hanswer

theorem booked_answerRandomness (separator expr : Datum) {result : Except Fault Outcome}
    {report : Except Fault Report} (h : report.map (fun _ => ()) = result.map fun _ => ()) :
    booked (answerRandomness separator expr report).events = answerEntries .randomness result := by
  unfold answerRandomness
  split
  · next e =>
    cases result with
    | ok o => cases h
    | error fault =>
      cases h
      exact booked_emit_of_unbooked _ (unbooked_sendMistake separator expr e)
  · next fault hnot =>
    cases result with
    | ok o => cases h
    | error fault =>
      cases h
      cases fault with
      | dice e => exact absurd rfl (hnot e)
      | _ => rfl
  · next report =>
    cases result with
    | error fault => cases h
    | ok o =>
      refine booked_emit_of_unbooked [.counted "randomness.ok"] ?_
      exact (unbooked_ofExcept _).bind fun content => unbooked_send content false

/-! ## Whole invocations

Before its throw an invocation looks for settings and for limits, and in the end it sends an answer.
All of that may go wrong, and none of it is entered. -/

theorem onlyLogs_settingsOf (inv : Command.Invocation) : (Command.settingsOf inv).OnlyLogs := by
  unfold Command.settingsOf
  split
  · exact onlyLogs_pure _
  · exact (Settings.onlyLogs_load inv.place []).bind fun settings => onlyLogs_pure _

theorem booked_roll (o : RollOptions) (settings : Attributes) (userId : Datum) (s : Source) :
    booked (roll o settings userId s).events =
      callEntries .roll ((Limits.ofAttributes (some settings)).toOption.map fun limits =>
        (evaluateText o.verbose (.text (if o.expr = "" then defaultRollText else o.expr)) limits
          s).1.result) := by
  unfold roll
  cases Limits.ofAttributes (some settings) with
  | error fault => rfl
  | ok limits =>
    rw [ofExcept_bind, booked_emit_bind, booked_evaluateText, booked_answerRoll]
    rfl

theorem booked_randomness (o : RandomnessOptions) (settings : Attributes) {s : Source}
    (hs : ((o.seed.map Source.seeded).getD s).IsFair) :
    booked (randomness o settings s).events =
      callEntries .randomness ((Limits.ofAttributes (some settings)).toOption.map fun limits =>
        (evaluateText false (reportExpr o settings) limits
          ((o.seed.map Source.seeded).getD s)).1.result) := by
  unfold randomness
  cases Limits.ofAttributes (some settings) with
  | error fault => rfl
  | ok limits =>
    obtain ⟨hentries, hresult⟩ := booked_reportText (reportExpr o settings) limits hs.inUnit
    rw [ofExcept_bind, booked_emit_bind, hentries, booked_answerRandomness _ _ hresult]
    rfl

namespace Call

/-- What an invocation enters is told by how its throw ends.

For a report that takes an argument: it is made of the faces that were rolled, and if it could fail
on some of them, a finished throw would be followed by no answer. Faces from a generator are always
among those that a report counts. -/
theorem booked_run (c : Call) : booked c.run.events = callEntries c.ledger c.thrown? := by
  cases c with
  | roll inv o =>
    show booked (Command.settingsOf inv >>= fun settings => Dicebox.roll o settings inv.userId
      (.seeded inv.entropy)).events = _
    cases hsettings : (Command.settingsOf inv).result with
    | error fault =>
      rw [bind_error hsettings]
      simp only [thrown?, hsettings]
      exact (onlyLogs_settingsOf inv).unbooked
    | ok settings =>
      rw [booked_bind_of_unbooked (onlyLogs_settingsOf inv).unbooked hsettings, booked_roll]
      simp only [thrown?, hsettings]
      rfl
  | randomness inv o =>
    have hfair : ((o.seed.map Source.seeded).getD (.seeded inv.entropy)).IsFair := by
      cases o.seed <;> trivial
    show booked (Command.settingsOf inv >>= fun settings => Dicebox.randomness o settings
      (.seeded inv.entropy)).events = _
    cases hsettings : (Command.settingsOf inv).result with
    | error fault =>
      rw [bind_error hsettings]
      simp only [thrown?, hsettings]
      exact (onlyLogs_settingsOf inv).unbooked
    | ok settings =>
      rw [booked_bind_of_unbooked (onlyLogs_settingsOf inv).unbooked hsettings,
        booked_randomness _ _ hfair]
      simp only [thrown?, hsettings]
      rfl

theorem ledger_ne_throws (c : Call) : c.ledger ≠ .throws := by
  cases c <;> exact fun h => nomatch h

/-- **An invocation changes the books in one of three ways**: not at all, by a mistake that is
counted twice, or by a finished throw that is entered and answered. Whatever is to be proved of the
books after invocations is proved of these three. -/
theorem book_run_cases (c : Call) (m : Metrics) :
    (m.book c.run.events = m ∧ c.dice = 0) ∨
    (∃ kind, m.book c.run.events =
      (m.add (Counter.mistake .throws kind).name 1).add (Counter.mistake c.ledger kind).name 1 ∧
      c.dice = 0) ∨
    (∃ thrown, EntersThrow c.dice m thrown ∧
      m.book c.run.events = thrown.add (Counter.success c.ledger).name 1) := by
  rw [← m.book_booked, c.booked_run]
  unfold dice
  cases c.thrown? with
  | none => exact Or.inl ⟨rfl, rfl⟩
  | some result =>
    cases result with
    | ok o => exact Or.inr (Or.inr ⟨_, entersThrow_book m o, m.book_append _ _⟩)
    | error fault =>
      -- Only mistakes in the throw are counted; any other fault goes through to the caller.
      cases fault with
      | dice e => exact Or.inr (Or.inl ⟨e.kind, rfl, rfl⟩)
      | _ => exact Or.inl ⟨rfl, rfl⟩

end Call

theorem EntersThrow.read {n : Nat} {before after : Metrics} (h : EntersThrow n before after)
    (b : Counter) : after.read b = before.read b + if b = .success .throws then 1 else 0 := by
  rw [← before.read_add (.success .throws) b, Metrics.read, Metrics.counter, h.counters]
  rfl

end Dicebox
