import Mathlib.Algebra.Order.BigOperators.Group.List
import Dicebox.Proofs.Metrics.Booking
import Dicebox.Proofs.Throw.Limits
import Dicebox.Proofs.Throw.Rolling
import Dicebox.Throw.Evaluate

/-!
# A throw does what it says

What a throw comes to is written down here without a loop: its faces are those of the draws, its
total is their sum and the modifier, and its messages are a list in which each die stands at its
place (`Throw.transcript`). The three are kept up side by side while the dice are rolled, and

> **a throw on a source with enough draws realizes all of it,**

whoever watches. `Throw.evaluate_cases` is what it is derived from, and what everything else about
throws is derived from, too: either all dice were rolled and one entry was made in the books, or the
throw broke off without one.

Numbers have to be short enough to be written, or there are no messages. `Throw.printed` lists the
numbers that a throw writes anywhere.
-/

set_option autoImplicit false

namespace Dicebox

open Number

-- The sum of a list starts from core's own zero, whatever else is imported.
attribute [local instance (high)] Zero.ofOfNat0

/-! ## The specification

It is written from what was asked for, and not from the throw that was made of it: the sign and the
value are the given ones, also where the throw keeps no modifier at all. -/

/-- What a modifier in writing adds to the sum of the dice. Without a sign it adds nothing, whatever
the value is said to be. -/
def Sign.signed (value : Int) : Sign → Int
  | .none => 0
  | .plus => value
  | .minus => -value

namespace Throw

/-- The messages of a throw: one for each die at its place, one for the modifier, even if it is
zero, and the summary. -/
def transcript (sign : Sign) (value : Int) (label : String) (faces : List Int) (total : Int) :
    List String :=
  faces.mapIdx (fun i face => "Die " ++ toString (i + 1) ++ " gave " ++ toString face) ++
    (match sign with
      | .none => []
      | .plus => ["Adding " ++ toString value]
      | .minus => ["Subtracting " ++ toString value]) ++
    ["Final result for throw " ++ label ++ ": " ++ toString total]

/-- All numbers that are written in the course of a throw.

Not only those of the messages: the announcement and the steps have numbers in them as well, and the
running totals in the steps may be longer than the total, if the modifier takes something away. -/
def printed (t : Throw) (faces : List Int) : List Int :=
  [(t.modifier.value : Int), t.dieCount, t.sides] ++
    (dieLines faces).flatMap (fun l => [(l.number : Int), l.face, l.total]) ++ [t.totalOf faces]

/-- None of the numbers of a throw is too long to be written. -/
def IsPrintable (t : Throw) (faces : List Int) : Prop :=
  ∀ n ∈ t.printed faces, (Text.write? n).isSome

/-- The outcome of a throw of which all dice have been rolled. -/
def outcomeOf (t : Throw) (faces : List Int) : Outcome :=
  ⟨t.totalOf faces, faces, t.messages faces (toString (t.totalOf faces)), t⟩

theorem eq_of_make {dieCount sides value : Int} {sign : Sign} {label : String} {t : Throw}
    (h : make dieCount sides sign value label = .ok t) :
    (t.dieCount : Int) = dieCount ∧ (t.sides : Int) = sides ∧ t.label = label ∧
      t.modifier.sign = sign ∧ (t.modifier.value : Int) = value ∧
      t.modifier.amount = sign.signed value := by
  unfold make at h
  split at h
  · cases h
  · next hd =>
    split at h
    · cases h
    · next hs =>
      split at h
      · cases h
      · next hv =>
        have hvalue : ((value.toNat : Nat) : Int) = value := Int.toNat_of_nonneg (by omega)
        have hdice : ((dieCount.toNat : Nat) : Int) = dieCount := Int.toNat_of_nonneg (by omega)
        have hsides : ((sides.toNat : Nat) : Int) = sides := Int.toNat_of_nonneg (by omega)
        cases sign with
        | none =>
          dsimp only at h
          split at h
          · next hzero =>
            cases h
            exact ⟨hdice, hsides, rfl, rfl, hzero.symm, rfl⟩
          · cases h
        | plus =>
          cases h
          exact ⟨hdice, hsides, rfl, rfl, hvalue, hvalue⟩
        | minus =>
          cases h
          exact ⟨hdice, hsides, rfl, rfl, hvalue, congrArg Neg.neg hvalue⟩

end Throw

/-! ## Messages -/

theorem map_message_dieLines (faces : List Int) :
    (dieLines faces).map DieLine.message =
      faces.mapIdx fun i face => "Die " ++ toString (i + 1) ++ " gave " ++ toString face := by
  -- Lines are added at the end (`dieLines_concat`), so that is where the induction has to go.
  induction faces using List.reverseRecOn with
  | nil => rfl
  | append_singleton faces face ih =>
    rw [dieLines_concat, List.map_append, ih, List.mapIdx_concat]
    rfl

theorem Throw.messages_eq_transcript (t : Throw) (faces : List Int) (total : Int) :
    t.messages faces (toString total) =
      transcript t.modifier.sign t.modifier.value t.label faces total := by
  unfold messages messagesOf transcript
  rw [map_message_dieLines]
  cases t.modifier.sign <;> rfl

/-! ## Entries -/

@[simp] theorem booked_stepEvents (label : Datum) (watched : Bool) (line : String)
    (values : List (String × Datum)) : booked (stepEvents label watched line values) = [] := by
  cases watched <;> rfl

@[simp] theorem booked_dieEvents (label sides : Datum) (watched : Bool) (l : DieLine) :
    booked (dieEvents label sides watched l) = [] :=
  booked_stepEvents label watched l.step [("die", .int l.number), ("result", .int l.face)]

@[simp] theorem booked_closingEvents (label dieCount : Datum) (watched : Bool)
    (modifierSteps : List String) (summary : String) (total : Datum) :
    booked (closingEvents label dieCount watched modifierSteps summary total) =
      [.observed dieCountHistogram dieCount] := by
  rw [closingEvents, booked_append, booked_append, booked_stepEvents,
    booked_flatMap_eq_nil fun line => booked_stepEvents label watched line []]
  rfl

/-! ## What a throw can come to

There are two places where it may end early, before the dice and among them, and one after them
where the total is written. Whatever way it takes, there is at most one entry, and that comes
last. -/

theorem tell_eq {α : Type} (opening : List Event) (dice : List Int → List Event)
    (ending : List Int → Run α) (rolls : Rolls) :
    tell opening dice ending rolls =
      match rolls.stopped with
      | some fault => ⟨opening ++ (dice rolls.faces ++ []), .error fault⟩
      | none => ⟨opening ++ (dice rolls.faces ++ (ending rolls.faces).events),
          (ending rolls.faces).result⟩ := by
  unfold tell
  cases rolls.stopped with
  | some fault => rfl
  | none => rfl

namespace Throw

theorem IsPrintable.isSome_announcement? {t : Throw} {faces : List Int} (h : t.IsPrintable faces) :
    t.announcement?.isSome := by
  have hvalue := Text.write?_of_isSome (h t.modifier.value (by simp [printed]))
  have hdice := Text.write?_of_isSome (h t.dieCount (by simp [printed]))
  have hsides := Text.write?_of_isSome (h t.sides (by simp [printed]))
  rw [announcement?, hvalue, hdice, hsides]
  rfl

theorem finish_cases (watched : Bool) (t : Throw) (faces : List Int) :
    (t.finish watched faces = .fail .numeralTooLong ∧ ¬ t.IsPrintable faces) ∨
    (∃ events, t.finish watched faces = ⟨events, .ok (t.outcomeOf faces)⟩ ∧
      booked events = [.observed dieCountHistogram (.int t.dieCount)]) := by
  unfold finish
  simp only
  cases htotal : Text.write? (t.totalOf faces) with
  | none =>
    refine Or.inl ⟨rfl, fun hp => ?_⟩
    have hshort := hp (t.totalOf faces) (by simp [printed])
    rw [htotal] at hshort
    cases hshort
  | some written =>
    have hsome := Text.write?_of_isSome (n := t.totalOf faces) (by rw [htotal]; rfl)
    rw [htotal] at hsome
    cases hsome
    exact Or.inr ⟨_, rfl, booked_closingEvents ..⟩

/-- A throw breaks off, for a number that cannot be written or for what stopped the dice, and leaves
the books alone; or it rolls all of its dice, and enters how many there were.

Whether the numbers can be written is asked of all of them, though some are never reached. So this
does not say which of them was too long, and it need not: the fault is the same. -/
theorem evaluate_cases (watched : Bool) (t : Throw) (s : Source) :
    let thrown := (t.evaluate watched s).1
    let rolls := rollDice t.sides t.dieCount s
    (∃ fault, thrown.result = .error fault ∧ booked thrown.events = [] ∧
      (¬ t.IsPrintable rolls.faces ∧ fault = .numeralTooLong ∨ rolls.stopped = some fault)) ∨
    (rolls.stopped = none ∧ thrown.result = .ok (t.outcomeOf rolls.faces) ∧
      booked thrown.events = [.observed dieCountHistogram (.int t.dieCount)] ∧
      (t.evaluate watched s).2 = rolls.rest) := by
  intro thrown rolls
  cases hannounce : t.announcement? with
  | none =>
    have heval : t.evaluate watched s = (.fail .numeralTooLong, s) := by
      unfold evaluate
      rw [hannounce]
    have hthrown : thrown = .fail .numeralTooLong := congrArg Prod.fst heval
    refine Or.inl ⟨.numeralTooLong, by rw [hthrown]; rfl, by rw [hthrown]; rfl,
      Or.inl ⟨fun hp => ?_, rfl⟩⟩
    have hsome := hp.isSome_announcement?
    rw [hannounce] at hsome
    cases hsome
  | some announcement =>
    have heval : t.evaluate watched s =
        (tell (stepEvents (.text t.label) watched announcement []) (t.diceEvents watched)
          (t.finish watched) rolls, rolls.rest) := by
      unfold evaluate
      rw [hannounce]
    have hdice : booked (t.diceEvents watched rolls.faces) = [] :=
      booked_flatMap_eq_nil (booked_dieEvents _ _ watched) _
    have hthrown : thrown = _ := congrArg Prod.fst heval
    rw [hthrown, heval, tell_eq]
    cases hstopped : rolls.stopped with
    | some fault =>
      refine Or.inl ⟨fault, rfl, ?_, Or.inr rfl⟩
      simp [hdice]
    | none =>
      rcases finish_cases watched t rolls.faces with ⟨hfinish, hp⟩ | ⟨events, hfinish, hevents⟩
      · refine Or.inl ⟨.numeralTooLong, by rw [hfinish]; rfl, ?_, Or.inl ⟨hp, rfl⟩⟩
        simp [hfinish, hdice, Run.fail]
      · refine Or.inr ⟨rfl, by rw [hfinish], ?_, rfl⟩
        simp [hfinish, hdice, hevents]

/-! ## The throw that was asked for -/

theorem sum_bounds {sides : Int} {faces : List Int} (h : ∀ f ∈ faces, 1 ≤ f ∧ f ≤ sides) :
    faces.length ≤ faces.sum ∧ faces.sum ≤ faces.length * sides := by
  have hlow := List.card_nsmul_le_sum faces 1 fun f hf => (h f hf).1
  have hhigh := List.sum_le_card_nsmul faces sides fun f hf => (h f hf).2
  rw [nsmul_eq_mul, mul_one] at hlow
  rw [nsmul_eq_mul] at hhigh
  exact ⟨hlow, hhigh⟩

/-- **A throw realizes its specification.** On a source that can supply the draws, all of them from
zero to below one, it has the faces of these draws in their order, and each is one of the sides. If
its numbers can be written, then it ends, has used up the draws and no others, and its total, its
messages and its only entry in the books are as they were asked for. -/
theorem evaluate_realizes {dieCount sides value : Int} {sign : Sign} {label : String} {t : Throw}
    (ht : make dieCount sides sign value label = .ok t) (hsides : (Double.ofInt? sides).isSome)
    {s rest : Source} {draws : List Draw} (hdraws : s.take? dieCount.toNat = some (draws, rest))
    (hunit : ∀ d ∈ draws, d.InUnit) :
    ∃ faces : List Int, ShowsOn sides.toNat draws faces ∧ faces.length = dieCount ∧
      (∀ f ∈ faces, 1 ≤ f ∧ f ≤ sides) ∧
      (t.IsPrintable faces → ∀ watched, ∃ events total,
        t.evaluate watched s =
          (⟨events, .ok ⟨total, faces, transcript sign value label faces total, t⟩⟩, rest) ∧
        total = faces.sum + sign.signed value ∧
        dieCount + sign.signed value ≤ total ∧ total ≤ dieCount * sides + sign.signed value ∧
        ∀ m : Metrics, m.book events =
          (m.observe dieCountHistogram (.int dieCount) .default).2) := by
  obtain ⟨rfl, rfl, rfl, rfl, rfl, hamount⟩ := eq_of_make ht
  obtain ⟨faces, hfaces, hrange⟩ := exists_faces t.sides_pos hsides hunit
  have hlength : faces.length = t.dieCount := by
    rw [← hfaces.length_eq, Source.length_of_take? hdraws, Int.toNat_natCast]
  have hroll : rollDice t.sides t.dieCount s = ⟨faces, none, rest⟩ :=
    rollDice_of_take? hdraws hfaces
  refine ⟨faces, hfaces, by rw [hlength], hrange, fun hp watched => ?_⟩
  obtain ⟨hlow, hhigh⟩ := sum_bounds hrange
  rw [hlength] at hlow hhigh
  rcases evaluate_cases watched t s with ⟨fault, -, -, hfault⟩ | ⟨-, hresult, hbooked, hrest⟩
  · rw [hroll] at hfault
    rcases hfault with ⟨hlong, -⟩ | hstopped
    · exact absurd hp hlong
    · cases hstopped
  · rw [hroll] at hresult hrest
    rw [← hamount]
    refine ⟨(t.evaluate watched s).1.events, t.totalOf faces, ?_, rfl, ?_, ?_, fun m => ?_⟩
    · rw [← t.messages_eq_transcript faces (t.totalOf faces)]
      show t.evaluate watched s = (⟨_, .ok (t.outcomeOf faces)⟩, (⟨faces, none, rest⟩ : Rolls).rest)
      rw [← hresult, ← hrest]
    · exact Int.add_le_add_right hlow _
    · exact Int.add_le_add_right hhigh _
    · rw [← m.book_booked, hbooked]
      rfl

/-- Two dice of a script of three draws, and a modifier that is there and zero. -/
theorem evaluate_realizes_two_dice :
    let t : Throw := ⟨2, 6, .minus 0, "2 d6-0", by decide, by decide⟩
    let s : Source := .scripted [.ok (.fraction 0), .ok (.fraction (2 ^ 52)), .ok (.fraction 1)]
    make 2 6 .minus 0 "2 d6-0" = .ok t ∧ (Double.ofInt? 6).isSome ∧ t.IsPrintable [1, 4] ∧
    ∃ events total, t.evaluate true s =
      (⟨events, .ok ⟨total, [1, 4], ["Die 1 gave 1", "Die 2 gave 4", "Subtracting 0",
        "Final result for throw 2 d6-0: " ++ toString total], t⟩⟩, .scripted [.ok (.fraction 1)]) ∧
      total = 5 := by
  intro t s
  have hmake : make 2 6 .minus 0 "2 d6-0" = .ok t := rfl
  have hsides : (Double.ofInt? 6).isSome := by decide
  have hprintable : t.IsPrintable [1, 4] := by
    have hshort : ∀ n ∈ t.printed [1, 4], Text.IsShort n := by decide
    exact fun n hn => by rw [(hshort n hn).write?_eq]; rfl
  have hdraws : s.take? 2 =
      some ([.fraction 0, .fraction (2 ^ 52)], .scripted [.ok (.fraction 1)]) := rfl
  have hunit : ∀ d ∈ [Draw.fraction 0, .fraction (2 ^ 52)], d.InUnit := by
    intro d hd
    refine Draw.IsFair.inUnit ?_
    rcases List.mem_cons.mp hd with rfl | hd
    · exact ⟨0, by decide, rfl⟩
    · rw [List.mem_singleton.mp hd]
      exact ⟨2 ^ 52, by decide, rfl⟩
  obtain ⟨faces, hfaces, -, -, hthrow⟩ := evaluate_realizes hmake hsides hdraws hunit
  obtain rfl : faces = [1, 4] := hfaces.eq_of_toOption (by decide +kernel)
  obtain ⟨events, total, heval, htotal, -⟩ := hthrow hprintable true
  exact ⟨hmake, hsides, hprintable, events, total, heval, htotal⟩

end Throw

end Dicebox
