import Dicebox.Proofs.Throw.Pieces

/-!
# Throws that break off

A throw may break off in the midst of its dice: the source has run dry, or hands out something that
is no draw, or there are more sides than a double can hold (`FailsToRoll`). The dice before are told
as if nothing were to come, and of the die that is not rolled nothing is told at all, since a die is
told only once its face is there. So

> **what has been told is the beginning of what would have been told**

on any source that begins with the same draws and does not fail (`take_story`). Neither of the two
accounts is reached, that of success and that of a mistake, and the draws that were taken are gone.

That nothing of the failing die has got out is not seen from the list of steps, which is short
either way, but from the fact that the list is the one of the faces alone.
-/

set_option autoImplicit false

namespace Dicebox

open Number Throw

-- The sum of a list starts from core's own zero, whatever else is imported.
attribute [local instance (high)] Zero.ofOfNat0

/-! ## A die that is not rolled

There are three ways in which a die may fail, and they differ in what has been drawn by then. A
source that hands out a mistake about dice in place of a draw is left out, since none does. -/

/-- A source on which a die is not rolled: for which fault, and what is left. -/
inductive FailsToRoll (sides : Nat) (s : Source) : Fault → Source → Prop
  /-- There is nothing left to draw. -/
  | dry (h : s.draw? = none) : FailsToRoll sides s .outOfDraws s
  /-- What comes next is no draw, and is used up. -/
  | undrawn {fault : Fault} {rest : Source} (h : s.draw? = some (.error fault, rest))
      (hfault : ∀ e, fault ≠ .dice e) : FailsToRoll sides s fault rest
  /-- A draw is taken before the sides are found to be too many for a double. -/
  | oversize {d : Draw} {rest : Source} (h : s.draw? = some (.ok d, rest))
      (hsides : Double.ofInt? sides = none) : FailsToRoll sides s .beyondDoubles rest

namespace FailsToRoll

variable {sides : Nat} {s rest : Source} {fault : Fault}

theorem rollDie_eq (h : FailsToRoll sides s fault rest) :
    rollDie sides s = (.error fault, rest) := by
  cases h with
  | dry h => rw [rollDie, h]
  | undrawn h => rw [rollDie, h]; rfl
  | oversize h hsides =>
    rw [rollDie, h]
    dsimp only
    rw [Except.bind, face_of_ofInt?_eq_none hsides]

theorem ne_dice (h : FailsToRoll sides s fault rest) (e : DiceError) : fault ≠ .dice e := by
  cases h with
  | dry => exact fun he => nomatch he
  | undrawn _ hfault => exact hfault e
  | oversize => exact fun he => nomatch he

end FailsToRoll

theorem rollDice_of_failsToRoll {sides n j : Nat} {s here rest : Source} {draws : List Draw}
    {faces : List Int} {fault : Fault} (hj : j < n) (hdraws : s.take? j = some (draws, here))
    (hfaces : ShowsOn sides draws faces) (hfail : FailsToRoll sides here fault rest) :
    rollDice sides n s = ⟨faces, some fault, rest⟩ := by
  obtain ⟨k, rfl⟩ := Nat.exists_eq_add_of_lt hj
  have hothers : rollDice sides (k + 1) here = ⟨[], some fault, rest⟩ := by
    rw [rollDice_succ, hfail.rollDie_eq]
  have hjoined := rollDice_join (rollDice_of_take? hdraws hfaces) hothers
  rw [List.append_nil] at hjoined
  exact hjoined

theorem exists_faces_of_take? {sides n j : Nat} {s here rest : Source} {draws : List Draw}
    {faces all : List Int} (hj : j < n) (hdraws : s.take? j = some (draws, here))
    (hfaces : ShowsOn sides draws faces) (hroll : rollDice sides n s = ⟨all, none, rest⟩) :
    ∃ others, all = faces ++ others := by
  obtain ⟨k, rfl⟩ := Nat.exists_eq_add_of_lt hj
  rw [Nat.add_assoc, rollDice_add, rollDice_of_take? hdraws hfaces] at hroll
  exact ⟨_, (Rolls.mk.inj hroll).1.symm⟩

/-! ## The beginning of a story

A step names its die, its face and the total so far, and all three can be told without the dice that
follow. If a step said anything about what is to come, the claim would be false. -/

namespace Throw

theorem mapIdx_dieStep_append (faces others : List Int) :
    (faces ++ others).mapIdx (dieStep (faces ++ others)) =
      faces.mapIdx (dieStep faces) ++
        others.mapIdx fun i => dieStep (faces ++ others) (i + faces.length) := by
  have hfirst : faces.mapIdx (dieStep (faces ++ others)) = faces.mapIdx (dieStep faces) := by
    rw [List.mapIdx_eq_mapIdx_iff]
    intro i hi
    rw [dieStep, dieStep, List.take_append_of_le_length (Nat.succ_le_of_lt hi)]
  rw [List.mapIdx_append, hfirst]

/-- A story of more dice begins with what is told of the first of them. -/
theorem take_story (t : Throw) (faces others : List Int) :
    (t.story (faces ++ others)).take (2 + faces.length) =
      ["Throwing dice from string " ++ t.label, t.announcement] ++
        faces.mapIdx (dieStep faces) := by
  rw [story, mapIdx_dieStep_append, ← List.append_assoc, List.append_assoc, List.append_assoc]
  refine List.take_left' ?_
  rw [List.length_append, List.length_mapIdx]
  rfl

theorem take_tail_story (t : Throw) (faces others : List Int) :
    (t.story (faces ++ others)).tail.take (1 + faces.length) =
      t.announcement :: faces.mapIdx (dieStep faces) := by
  have htake := t.take_story faces others
  have hcons : t.story (faces ++ others) =
      ("Throwing dice from string " ++ t.label) :: (t.story (faces ++ others)).tail := rfl
  rw [hcons, show 2 + faces.length = (1 + faces.length) + 1 by omega, List.take_succ_cons] at htake
  exact (List.cons.inj htake).2

theorem steps_of_finished {t : Throw} {watched : Bool} {s : Source} {o : Outcome}
    (h : (t.evaluate watched s).1.result = .ok o) :
    (t.evaluate watched s).1.steps = if watched then (t.story o.faces).tail else [] := by
  obtain ⟨-, hevents⟩ := t.events_of_finished watched h
  rw [Run.steps, hevents]
  simp only [List.filterMap_append, filterMap_line?_stepEvents, filterMap_line?_diceEvents,
    filterMap_line?_finalEvents]
  cases watched with
  | true =>
    simp only [if_pos, story, List.append_assoc]
    rfl
  | false => rfl

end Throw

section

variable {t : Throw} {watched : Bool} {s here : Source} {j : Nat} {draws : List Draw}
  {faces : List Int} {o : Outcome}

theorem take_steps_of_evaluate (ho : (t.evaluate watched s).1.result = .ok o)
    (hj : j < t.dieCount) (hdraws : s.take? j = some (draws, here))
    (hfaces : ShowsOn t.sides draws faces) :
    (t.evaluate watched s).1.steps.take (1 + j) =
      if watched then t.announcement :: faces.mapIdx (dieStep faces) else [] := by
  have hlength : faces.length = j := by rw [← hfaces.length_eq, Source.length_of_take? hdraws]
  obtain ⟨hrolled, -⟩ := rolled_of_evaluate ho
  -- The finished throw has faces of its own, and they begin with the ones of the broken throw.
  obtain ⟨others, hall⟩ := exists_faces_of_take? hj hdraws hfaces hrolled
  rw [steps_of_finished ho, hall, ← hlength]
  cases watched with
  | true => rw [if_pos rfl, if_pos rfl, take_tail_story]
  | false => exact List.take_nil

/-- A finished throw from a text begins with the text, the announcement and the dice of the first
draws. -/
theorem take_steps_of_evaluateText {text : String} {limits : Limits}
    (hread : (Throw.parse (.text text) limits).result = .ok t)
    (ho : (evaluateText watched (.text text) limits s).1.result = .ok o) (hj : j < t.dieCount)
    (hdraws : s.take? j = some (draws, here)) (hfaces : ShowsOn t.sides draws faces) :
    (evaluateText watched (.text text) limits s).1.steps.take (2 + j) =
      if watched then
        ["Throwing dice from string " ++ text, t.announcement] ++ faces.mapIdx (dieStep faces)
      else [] := by
  have hlength : faces.length = j := by rw [← hfaces.length_eq, Source.length_of_take? hdraws]
  obtain ⟨hrolled, -⟩ := rolled_of_evaluateText ho
  obtain ⟨hparse, -⟩ := parse_of_evaluateText watched s ho
  obtain rfl : t = o.thrown := Except.ok.inj (hread.symm.trans hparse)
  obtain ⟨others, hall⟩ := exists_faces_of_take? hj hdraws hfaces hrolled
  obtain ⟨hsteps, -⟩ := told_of_evaluateText watched hread ho
  obtain ⟨-, hlabel⟩ := o.thrown.events_of_parse hread
  rw [hsteps, hall, ← hlength]
  cases watched with
  | true => rw [if_pos rfl, if_pos rfl, take_story, hlabel]
  | false => exact List.take_nil

end

/-! ## What is left behind

The throw by itself and the throw from a text break off in the same way, and the second adds a line
in front. An account is given of mistakes and of outcomes, and this is neither. -/

/-- A throw that has broken off with a fault, has shown some steps by then, and leaves the books as
they were. -/
structure BreaksOff (thrown : Run Outcome × Source) (fault : Fault) (rest : Source)
    (steps : List String) : Prop where
  result : thrown.1.result = .error fault
  rest : thrown.2 = rest
  steps : thrown.1.steps = steps
  books (m : Metrics) : m.book thrown.1.events = m

section

variable {t : Throw} (watched : Bool) {s rest : Source} {faces : List Int} {fault : Fault}

theorem breaksOff_evaluate (hannounce : t.announcement?.isSome)
    (hroll : rollDice t.sides t.dieCount s = ⟨faces, some fault, rest⟩) :
    BreaksOff (t.evaluate watched s) fault rest
      (if watched then t.announcement :: faces.mapIdx (dieStep faces) else []) := by
  obtain ⟨line, hline⟩ := Option.isSome_iff_exists.mp hannounce
  obtain rfl := t.announcement?_eq hline
  have heval : t.evaluate watched s =
      (⟨stepEvents (.text t.label) watched t.announcement [] ++ (t.diceEvents watched faces ++ []),
        .error fault⟩, rest) := by
    unfold evaluate
    rw [hline]
    dsimp only
    rw [tell_eq, hroll]
  refine ⟨by rw [heval], by rw [heval], ?_, fun m => ?_⟩
  · rw [heval, Run.steps, List.filterMap_append, List.filterMap_append,
      filterMap_line?_stepEvents, filterMap_line?_diceEvents]
    cases watched with
    | true => simp
    | false => rfl
  · have hdice : booked (t.diceEvents watched faces) = [] :=
      booked_flatMap_eq_nil (booked_dieEvents _ _ watched) _
    rw [heval, ← m.book_booked, booked_append, booked_append, booked_stepEvents, hdice]
    rfl

theorem breaksOff_evaluateText {text : String} {limits : Limits}
    (hread : (Throw.parse (.text text) limits).result = .ok t)
    (hfault : ∀ e, fault ≠ .dice e) {steps : List String}
    (h : BreaksOff (t.evaluate watched s) fault rest (if watched then steps else [])) :
    BreaksOff (evaluateText watched (.text text) limits s) fault rest
      (if watched then ("Throwing dice from string " ++ text) :: steps else []) := by
  have hsilent : accountEvents (.text text) (.error fault) = [] := by
    cases fault with
    | dice e => exact absurd rfl (hfault e)
    | _ => rfl
  have heval : evaluateText watched (.text text) limits s =
      (⟨openingEvents watched (.text text) ++
        ((Throw.parse (.text text) limits).events ++ (t.evaluate watched s).1.events) ++ [],
        .error fault⟩, rest) := by
    rw [evaluateText_of_parse watched s hread, h.result, h.rest, hsilent]
  have hparse : (Throw.parse (.text text) limits).events.filterMap Event.line? = [] :=
    (onlyLogs_parse _ _).steps
  refine ⟨by rw [heval], by rw [heval], ?_, fun m => ?_⟩
  · have hsteps : (t.evaluate watched s).1.events.filterMap Event.line? = _ := h.steps
    have hopening : (openingEvents watched (.text text)).filterMap Event.line? =
        if watched then ["Throwing dice from string " ++ text] else [] := by
      cases watched <;> rfl
    rw [heval, Run.steps, List.filterMap_append, List.filterMap_append, List.filterMap_append,
      hopening, hparse, hsteps]
    cases watched with
    | true => exact List.append_nil _
    | false => rfl
  · rw [heval, ← m.book_booked, booked_append, booked_append, booked_append,
      booked_openingEvents, booked_parse, booked_nil, List.nil_append, List.nil_append,
      List.append_nil, m.book_booked]
    exact h.books m

/-- The numbers of a text that is read under integer limits can be written, as these can.

So a throw that has been read is announced before it breaks off. Without limits the announcement
might fail instead, and the source would not even be looked at. -/
theorem isSome_announcement?_of_parse {text : String} {maxDice maxSides maxModifier : Int}
    (hread : (Throw.parse (.text text) (.ofIntegers maxDice maxSides maxModifier)).result = .ok t) :
    t.announcement?.isSome := by
  have hbounded : ∀ {quantity digits limit} {n : Nat},
      Limits.bounded quantity digits (.int limit) = .ok n → (Text.write? n).isSome := by
    intro quantity digits limit n h
    have hle := le_of_bounded h
    have hwritten : (Text.write? limit).isSome := by
      cases hlimit : Text.write? limit with
      | some written => rfl
      | none =>
        simp only [Limits.bounded, Datum.write?, hlimit] at h
        cases h
    exact Text.isSome_write?_of_le (by omega) hwritten
  obtain ⟨⟨_, hdice⟩, ⟨_, hsides⟩, hvalue⟩ := bounded_of_parse hread
  refine isSome_announcement?_iff.mpr ⟨?_, hbounded hdice, hbounded hsides⟩
  rcases hvalue with hzero | ⟨_, hvalue⟩
  · rw [hzero]
    decide +kernel
  · exact hbounded hvalue

/-- **A throw that breaks off leaves the beginning of itself behind.**

If the draws before are from zero to below one, then the dice before are told, and nothing of the
die that fails. Any source that begins with the same draws and is enough for the throw begins with
the same steps: so many as there are dice before, after the announcement and, if the throw is one
from a text, the line of the text. The books stay as they are, and the draws that were taken are
gone. -/
theorem broken_throws_are_beginnings {text : String} {maxDice maxSides maxModifier : Int}
    (hread : (Throw.parse (.text text) (.ofIntegers maxDice maxSides maxModifier)).result = .ok t)
    {j : Nat} {here : Source} {draws : List Draw} (hj : j < t.dieCount)
    (hdraws : s.take? j = some (draws, here)) (hunit : ∀ d ∈ draws, d.InUnit)
    (hsides : j = 0 ∨ (Double.ofInt? t.sides).isSome)
    (hfail : FailsToRoll t.sides here fault rest) :
    let thrown := evaluateText watched (.text text) (.ofIntegers maxDice maxSides maxModifier)
    ∃ faces, ShowsOn t.sides draws faces ∧
      BreaksOff (thrown s) fault rest
        (if watched then
          ["Throwing dice from string " ++ text, t.announcement] ++ faces.mapIdx (dieStep faces)
        else []) ∧
      BreaksOff (t.evaluate watched s) fault rest
        (if watched then t.announcement :: faces.mapIdx (dieStep faces) else []) ∧
      ∀ s' here', s'.take? j = some (draws, here') →
        (∀ o, (thrown s').1.result = .ok o →
          (thrown s).1.steps = (thrown s').1.steps.take (2 + j)) ∧
        ∀ o, (t.evaluate watched s').1.result = .ok o →
          (t.evaluate watched s).1.steps = (t.evaluate watched s').1.steps.take (1 + j) := by
  intro thrown
  obtain ⟨faces, hfaces⟩ : ∃ faces, ShowsOn t.sides draws faces := by
    rcases hsides with rfl | hdouble
    · cases hdraws
      exact ⟨[], .nil⟩
    · obtain ⟨faces, hfaces, -⟩ := exists_faces t.sides_pos hdouble hunit
      exact ⟨faces, hfaces⟩
  have hroll := rollDice_of_failsToRoll hj hdraws hfaces hfail
  have hevaluate := breaksOff_evaluate watched (isSome_announcement?_of_parse hread) hroll
  have htext := breaksOff_evaluateText watched hread hfail.ne_dice hevaluate
  refine ⟨faces, hfaces, htext, hevaluate, fun s' here' hdraws' => ⟨fun o ho => ?_, fun o ho => ?_⟩⟩
  · exact htext.steps.trans (take_steps_of_evaluateText hread ho hj hdraws' hfaces).symm
  · exact hevaluate.steps.trans (take_steps_of_evaluate ho hj hdraws' hfaces).symm

/-- A source with one draw for three dice. -/
theorem broken_throws_are_beginnings_dry :
    let thrown := evaluateText true (.text "3d6+2") (.ofIntegers 100000 100000 1000000)
      (.scripted [.ok (.fraction 0)])
    thrown.1.result = .error .outOfDraws ∧ thrown.2 = .scripted [] ∧
    thrown.1.steps = ["Throwing dice from string 3d6+2",
      "Going to throw 3 dice with 6 sides each and then doing +2",
      "Die 1 gave 1, total is now 1"] ∧
    ∀ m : Metrics, m.book thrown.1.events = m := by
  let t : Throw := ⟨3, 6, .plus 2, "3d6+2", by decide, by decide⟩
  have hread : (Throw.parse (.text "3d6+2") (.ofIntegers 100000 100000 1000000)).result =
      .ok t := eq_ok_of_toOption (by decide +kernel)
  have hdraws : (Source.scripted [.ok (.fraction 0)]).take? 1 =
      some ([.fraction 0], .scripted []) := rfl
  have hunit : ∀ d ∈ [Draw.fraction 0], d.InUnit := by
    have hall : ∀ k ∈ [0], k < Draw.denominator := by decide
    exact fun d hd => Source.inUnit_fractions hall d (List.mem_map_of_mem hd)
  obtain ⟨faces, hfaces, hbroken, -, -⟩ := broken_throws_are_beginnings true hread
    (show 1 < t.dieCount by decide) hdraws hunit (Or.inr (by decide)) (.dry rfl)
  have hone : faces = [1] := hfaces.eq_of_toOption (by decide +kernel)
  refine ⟨hbroken.result, hbroken.rest, ?_, hbroken.books⟩
  rw [hbroken.steps, hone, if_pos rfl]
  decide +kernel

end

end Dicebox
