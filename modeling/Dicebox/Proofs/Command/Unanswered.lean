import Dicebox.Proofs.Command.Answering
import Dicebox.Proofs.Settings.Validity
import Dicebox.Proofs.Throw.Oversize

/-!
# Whether the command `roll` answers

An invocation of `roll` is answered if its throw is finished (`IsAnswered`), and if there is a
mistake in it, that is explained (`IsExplained`). Everything else that can end a throw ends the
command as well, and nobody hears of it.

Settings that have been read leave little of that: their limits are integers and their separator is
a text. What they do not rule out is a throw that is too large, for their limits are bounded from
below only (`Settings.IsValid`). So

> **the command answers under all settings whose limits are manageable, and goes silent under some
> others,**

with a fault that is no mistake in the throw: a number without a double, or one that is too long to
be written.
-/

set_option autoImplicit false

namespace Dicebox

open Run Number

/-! ## Ends of a command

There are three, and they exclude each other by what was sent. Silence comes with its fault, so that
it can be asked for which faults there is none. -/

namespace Run

/-- A run that sends one message for everybody, and that as its last. -/
def IsAnswered (x : Run Unit) : Prop :=
  x.result = .ok () ∧ ∃ before answer, x.sent = before ++ [⟨answer, false⟩] ∧
    ∀ m ∈ before, m.ephemeral = true

/-- A run that sends an ephemeral message and nothing else. -/
def IsExplained (x : Run Unit) : Prop := x.result = .ok () ∧ ∃ answer, x.sent = [⟨answer, true⟩]

/-- A run that ends with a fault and has sent nothing. It may have shown steps and written records,
and even have drawn dice. -/
def IsSilent (x : Run Unit) (fault : Fault) : Prop := x.result = .error fault ∧ x.sent = []

end Run

/-- Settings that allow for nothing too large. -/
def Settings.IsManageable (s : Settings) : Prop :=
  Limits.IsManageable s.diceMaxCount s.diceMaxSides s.diceMaxModifier

section

variable {inv : Command.Invocation} {settings : Settings}

/-- With settings that have been read, the throw decides how the command ends. Its limits are there
and its separator is a text, so neither can be what it fails at. -/
theorem act_roll_cases (hinv : (Command.settingsOf inv).result = .ok settings.attributes)
    (o : RollOptions) :
    let run := Command.act inv (.roll o)
    let thrown := (o.thrown settings.limits (.seeded inv.entropy)).result
    ((∃ outcome, thrown = .ok outcome) ∧ run.IsAnswered) ∨
    ((∃ e, thrown = .error (.dice e)) ∧ run.IsExplained) ∨
    (∃ fault, thrown = .error fault ∧ (∀ e, fault ≠ .dice e) ∧ run.IsSilent fault) := by
  intro run thrown
  have hlimits := settings.limitsOf_attributes
  have hseparator :
      separatorText (separatorOf (some settings.attributes)) = .ok settings.separator := by
    rw [settings.separatorOf_attributes]
    rfl
  have hsent : run.sent = _ := Command.sent_act_roll hinv hlimits o
  have hresult : run.result = _ := (Command.act_roll hinv o).1
  rw [result_roll hlimits] at hresult
  cases hthrown : (o.thrown settings.limits (.seeded inv.entropy)).result with
  | ok outcome =>
    rw [hthrown, (answerRoll_throw hseparator outcome).1] at hresult
    rw [hthrown, (answerRoll_throw hseparator outcome).2] at hsent
    refine Or.inl ⟨⟨outcome, hthrown⟩, hresult, _, _, hsent, fun m hm => ?_⟩
    split at hm
    · rw [List.mem_singleton.mp hm]
    · cases hm
  | error fault =>
    -- The command knows one sort of fault and explains it; it does not look at any other.
    by_cases hdice : ∃ e, fault = .dice e
    · obtain ⟨e, rfl⟩ := hdice
      rw [hthrown, (answerRoll_mistake hseparator e).1] at hresult
      rw [hthrown, (answerRoll_mistake hseparator e).2] at hsent
      exact Or.inr (Or.inl ⟨⟨e, hthrown⟩, hresult, _, hsent⟩)
    · have hother : ∀ e, fault ≠ .dice e := fun e he => hdice ⟨e, he⟩
      rw [hthrown, answerRoll_fault hother] at hresult hsent
      exact Or.inr (Or.inr ⟨fault, hthrown, hother, hresult, hsent⟩)

/-- A silent end has a reason, and manageable settings do not have it. -/
theorem fault_of_silent (hvalid : settings.IsValid) {o : RollOptions} {fault : Fault}
    (h : (o.thrown settings.limits (.seeded inv.entropy)).result = .error fault)
    (hother : ∀ e, fault ≠ .dice e) :
    (fault = .beyondDoubles ∨ fault = .numeralTooLong) ∧ ¬ settings.IsManageable := by
  unfold RollOptions.thrown Settings.limits Source.seeded at h
  rcases fault_of_evaluateText hvalid.one_le_count hvalid.one_le_sides hvalid.modifier_nonneg h with
    ⟨e, he⟩ | hfault
  · exact absurd he (hother e)
  · exact hfault

/-- Where the most sides have no double, asking for one die with all of them is enough. -/
theorem thrown_of_many_sides (hvalid : settings.IsValid) {sides : Nat}
    (hsides : settings.diceMaxSides = sides) (hnone : Double.ofInt? sides = none)
    (hwritten : ∀ n ∈ [settings.diceMaxCount, (sides : Int), settings.diceMaxModifier],
      (Text.write? n).isSome) (verbose : Bool) (entropy : Int) :
    (RollOptions.thrown ⟨Throw.plainText 1 sides .none, verbose⟩ settings.limits
      (.seeded entropy)).result = .error .beyondDoubles := by
  have hcount := hvalid.one_le_count
  have hpos : 0 < sides := by
    have := hvalid.one_le_sides
    omega
  have hdice := Text.isComparable_of_nonneg (by omega) (hwritten settings.diceMaxCount (by simp))
  have hmost := Text.isComparable_of_nonneg (by omega) (hwritten sides (by simp))
  have hmodifier := Text.isComparable_of_nonneg hvalid.modifier_nonneg
    (hwritten settings.diceMaxModifier (by simp))
  unfold RollOptions.thrown Settings.limits Source.seeded
  rw [RollOptions.asked_of_ne (Throw.plainText_ne_empty _ _ _), hsides]
  dsimp only
  exact evaluateText_of_many_sides hcount hpos hnone hdice hmost hmodifier

/-- **The command answers unless its settings allow for too much.** Under all settings that have
been read, however they were found, an invocation is answered, if its throw is finished; or its
mistake is explained; or the throw was too large, and the command is silent. This last does not
happen if the settings are manageable. It does happen, whether watched or not and on every seed, if
they allow for a die with more sides than there are doubles for. -/
theorem roll_answers {raw : Setting → Datum} (hread : Settings.read raw = .ok settings)
    (hinv : (Command.settingsOf inv).result = .ok settings.attributes) :
    (∀ o : RollOptions,
      let run := Command.act inv (.roll o)
      let thrown := (o.thrown settings.limits (.seeded inv.entropy)).result
      ((∃ outcome, thrown = .ok outcome) ∧ run.IsAnswered) ∨
      ((∃ e, thrown = .error (.dice e)) ∧ run.IsExplained) ∨
      (∃ fault, thrown = .error fault ∧ run.IsSilent fault ∧
        (fault = .beyondDoubles ∨ fault = .numeralTooLong) ∧ ¬ settings.IsManageable)) ∧
    (settings.IsManageable → ∀ o : RollOptions,
      (Command.act inv (.roll o)).IsAnswered ∨ (Command.act inv (.roll o)).IsExplained) ∧
    (∀ sides : Nat, settings.diceMaxSides = sides → Double.ofInt? sides = none →
      (∀ n ∈ [settings.diceMaxCount, (sides : Int), settings.diceMaxModifier],
        (Text.write? n).isSome) →
      ∀ verbose, (Command.act inv
        (.roll ⟨Throw.plainText 1 sides .none, verbose⟩)).IsSilent .beyondDoubles) := by
  have hvalid := Settings.isValid_of_read hread
  have hcases : ∀ o : RollOptions, _ := fun o => act_roll_cases hinv o
  refine ⟨fun o => ?_, fun hmanageable o => ?_, fun sides hsides hnone hwritten verbose => ?_⟩
  · rcases hcases o with hanswered | hexplained | ⟨fault, hthrown, hother, hsilent⟩
    · exact Or.inl hanswered
    · exact Or.inr (Or.inl hexplained)
    · exact Or.inr (Or.inr ⟨fault, hthrown, hsilent, fault_of_silent hvalid hthrown hother⟩)
  · rcases hcases o with ⟨-, hanswered⟩ | ⟨-, hexplained⟩ | ⟨fault, hthrown, hother, -⟩
    · exact Or.inl hanswered
    · exact Or.inr hexplained
    · exact absurd hmanageable (fault_of_silent hvalid hthrown hother).2
  · -- The throw is known to fail, and it is the third case for no other reason.
    have hother : ∀ e, Fault.beyondDoubles ≠ .dice e := fun e he => nomatch he
    have hthrown := thrown_of_many_sides hvalid hsides hnone hwritten verbose inv.entropy
    rcases hcases ⟨_, verbose⟩ with ⟨⟨_, hok⟩, -⟩ | ⟨⟨e, he⟩, -⟩ | ⟨fault, hfault, -, hsilent⟩
    · rw [hthrown] at hok
      cases hok
    · rw [hthrown] at he
      cases he
    · rw [hthrown] at hfault
      cases hfault
      exact hsilent

end

/-- Default settings but for dice with `10 ^ 309` sides, where doubles end at about `2 ^ 1024`: the
largest die that is allowed is rolled in silence. -/
theorem roll_answers_largest_die :
    let sides : Nat := (10 ^ 103) ^ 3
    let raw : Setting → Datum := fun s => if s = .diceMaxSides then .int sides else s.default
    ∃ settings : Settings, Settings.read raw = .ok settings ∧
      let inv : Command.Invocation := ⟨.table [], some settings.attributes, {}, .text "u1", 0⟩
      (Command.act inv (.roll ⟨Throw.plainText 1 sides .none, false⟩)).IsSilent .beyondDoubles := by
  intro sides raw
  have hread : Settings.read raw = .ok
    ⟨"dev", 100000, sides, 1000000, "\n", "10000d10", true, "INFO", "INFO", "NONE",
      "logs/rpgdice.jsonl", 5000000, 5⟩ := by
    rfl
  refine ⟨_, hread, ?_⟩
  intro inv
  have hinv : (Command.settingsOf inv).result = .ok _ := rfl
  have hnone : Double.ofInt? sides = none := by decide +kernel
  exact (roll_answers hread hinv).2.2 sides rfl hnone (by decide +kernel) false

end Dicebox
