import Dicebox.Proofs.Run.Results
import Dicebox.Proofs.Throw.Face
import Dicebox.Throw.Basic

/-!
# Rolling, draw by draw

`rollDice` takes draws for as long as it needs them, and here it is held against what it was to do:
take so many draws (`Source.take?`) and turn each of them into a face. A source that can supply the
draws gives the faces of exactly these, in their order, and is left behind them
(`rollDice_of_take?`).

Whether or not the rolling goes through, two things are never found in it. No die shows anything but
one of its sides on a draw from zero to below one (`rollDice_mem`); and what stops it is never a
mistake in the throw, unless the source hands one out in the place of a draw (`rollDice_stopped`).
For that `Source.IsBlameless` says that it does not. No way of making a source makes one that does:
a generator hands out draws only (`isBlameless_seeded`), and what is written in a script can fail to
be a number and nothing worse (`isBlameless_script`). On a generator nothing but a number of sides
without a double stops the rolling at all (`rollDice_stopped_twister`).
-/

set_option autoImplicit false

namespace Dicebox

open Number

/-! ## Sources that are not to blame

A script may be written in data of any kind, and reading it as draws may fail in many ways. All of
them are followed up here, down to the quotient of two numbers, to see that none is a mistake in a
throw. -/

theorem Numeric.divide_ne_dice (x y : Numeric) (e : DiceError) : x.divide y ≠ .error (.dice e) := by
  have hdouble : ∀ z : Numeric, z.toDouble ≠ .error (.dice e) := by
    intro z h
    unfold toDouble at h
    split at h
    · split at h <;> cases h
    · cases h
  intro h
  unfold divide at h
  split at h
  · split at h
    · cases h
    · split at h <;> cases h
  · cases hx : x.toDouble with
    | error fault =>
      rw [hx] at h
      cases h
      exact hdouble x hx
    | ok a =>
      cases hy : y.toDouble with
      | error fault =>
        rw [hx, hy] at h
        cases h
        exact hdouble y hy
      | ok b =>
        rw [hx, hy] at h
        have hquotient : (if b.isZero = true then .error .divisionByZero else .ok (a.div b)) =
            Except.error (Fault.dice e) := h
        split at hquotient <;> cases hquotient

theorem Datum.divide_ne_dice (a b : Datum) (e : DiceError) : a.divide b ≠ .error (.dice e) := by
  intro h
  unfold divide asNumber at h
  cases ha : a.numeric? with
  | none =>
    rw [ha] at h
    cases h
  | some x =>
    cases hb : b.numeric? with
    | none =>
      rw [ha, hb] at h
      cases h
    | some y =>
      rw [ha, hb] at h
      exact x.divide_ne_dice y e h

theorem Draw.ofDatum_ne_dice (d : Datum) (e : DiceError) : ofDatum d ≠ .error (.dice e) := by
  have hquotient : ∀ a b : Datum, (a.divide b).map Draw.mk ≠ .error (.dice e) := by
    intro a b h
    cases hdivide : a.divide b with
    | ok x => rw [hdivide] at h; cases h
    | error fault =>
      rw [hdivide] at h
      cases h
      exact a.divide_ne_dice b e hdivide
  intro h
  unfold ofDatum at h
  split at h
  · unfold ofNumerator at h
    split at h
    · cases h
    · exact hquotient _ _ h
  · exact hquotient _ _ h

namespace Source

/-- Nothing that a source hands out in the place of a draw is a mistake in a throw. It is a
condition on sources only because a script may hold any fault at all; no request leads to one that
fails it. -/
def IsBlameless : Source → Prop
  | .scripted draws => ∀ e : DiceError, .error (.dice e) ∉ draws
  | .twister _ => True

theorem isBlameless_seeded (seed : Int) : (seeded seed).IsBlameless := trivial

theorem isBlameless_script (numerators : List Datum) :
    (scripted (numerators.map Draw.ofDatum)).IsBlameless := by
  intro e he
  obtain ⟨d, -, hd⟩ := List.mem_map.mp he
  exact Draw.ofDatum_ne_dice d e hd

theorem isBlameless_draw? {s rest : Source} {d : Except Fault Draw} (hs : s.IsBlameless)
    (h : s.draw? = some (d, rest)) : (∀ e, d ≠ .error (.dice e)) ∧ rest.IsBlameless := by
  cases s with
  | scripted draws =>
    cases draws with
    | nil => cases h
    | cons first others =>
      cases h
      refine ⟨fun e he => hs e ?_, fun e he => hs e (List.mem_cons_of_mem _ he)⟩
      rw [he]
      exact List.mem_cons_self
  | twister state =>
    cases h
    exact ⟨fun e he => (nomatch he), trivial⟩

/-- Whatever a source hands out as a draw is from zero to below one. It may hand out other things,
and run dry. -/
def InUnit : Source → Prop
  | .scripted draws => ∀ d : Draw, .ok d ∈ draws → d.InUnit
  | .twister _ => True

theorem IsFair.inUnit {s : Source} (hs : s.IsFair) : s.InUnit := by
  cases s with
  | scripted draws =>
    intro d hd
    obtain ⟨draw, hdraw, hfair⟩ := hs _ hd
    cases hdraw
    exact Draw.IsFair.inUnit hfair
  | twister state => trivial

theorem inUnit_fractions {numerators : List Nat} (h : ∀ k ∈ numerators, k < Draw.denominator) :
    (scripted (numerators.map fun k => .ok (.fraction k))).InUnit := by
  intro d hd
  obtain ⟨k, hk, hdraw⟩ := List.mem_map.mp hd
  cases hdraw
  exact Draw.IsFair.inUnit ⟨k, h k hk, rfl⟩

theorem inUnit_draw? {s rest : Source} {d : Except Fault Draw} (hs : s.InUnit)
    (h : s.draw? = some (d, rest)) : (∀ draw, d = .ok draw → draw.InUnit) ∧ rest.InUnit := by
  cases s with
  | scripted draws =>
    cases draws with
    | nil => cases h
    | cons first others =>
      cases h
      refine ⟨fun draw hdraw => hs draw ?_,
        fun draw hdraw => hs draw (List.mem_cons_of_mem _ hdraw)⟩
      rw [← hdraw]
      exact List.mem_cons_self
  | twister state =>
    cases h
    refine ⟨fun draw hdraw => ?_, trivial⟩
    cases hdraw
    exact state.isFair_draw.inUnit

theorem draw?_twister (state : Twister) :
    (twister state).draw? = some (.ok state.draw.1, .twister state.draw.2) := by
  rw [draw?]

theorem take?_succ {n : Nat} {s rest : Source} {draws : List Draw}
    (h : s.take? (n + 1) = some (draws, rest)) :
    ∃ d s' others, s.draw? = some (.ok d, s') ∧ s'.take? n = some (others, rest) ∧
      draws = d :: others := by
  rw [take?] at h
  cases hdraw : s.draw? with
  | none => rw [hdraw] at h; cases h
  | some p =>
    obtain ⟨first, s'⟩ := p
    rw [hdraw] at h
    cases first with
    | error fault => cases h
    | ok d =>
      simp only [Option.bind_eq_bind, Option.bind_some, Except.toOption] at h
      obtain ⟨⟨others, s''⟩, hothers, h⟩ := Option.bind_eq_some_iff.mp h
      cases h
      exact ⟨d, s', others, rfl, hothers, rfl⟩

theorem length_of_take? {n : Nat} {s rest : Source} {draws : List Draw}
    (h : s.take? n = some (draws, rest)) : draws.length = n := by
  induction n generalizing s draws with
  | zero => cases h; rfl
  | succ n ih =>
    obtain ⟨d, s', others, -, hothers, rfl⟩ := take?_succ h
    rw [List.length_cons, ih hothers]

end Source

/-! ## Draws into faces

The draws are separated from the faces: first so many are taken from the source, and then each of
them is looked at by itself. In the program the two go on side by side. -/

/-- The faces that dice show on draws, one on each. -/
def ShowsOn (sides : Nat) : List Draw → List Int → Prop :=
  List.Forall₂ fun d f => face sides d = .ok f

theorem ShowsOn.eq_of_toOption {sides : Nat} {draws : List Draw} {faces expected : List Int}
    (h : ShowsOn sides draws faces)
    (hexpected : (draws.mapM (face sides)).toOption = some expected) : faces = expected :=
  Except.ok.inj ((mapM_eq_ok_iff.mpr h).symm.trans (eq_ok_of_toOption hexpected))

/-- Dice that are rolled on a source with enough draws show the faces of these draws, and leave what
comes after them.

By the number of dice, one draw and one face at a time. That a draw shows a face at all is part of
the assumption, since it may come from outside of the unit interval. -/
theorem rollDice_of_take? {sides n : Nat} {s rest : Source} {draws : List Draw} {faces : List Int}
    (hdraws : s.take? n = some (draws, rest)) (hfaces : ShowsOn sides draws faces) :
    rollDice sides n s = ⟨faces, none, rest⟩ := by
  induction n generalizing s draws faces with
  | zero =>
    cases hdraws
    cases hfaces
    exact rollDice_zero sides rest
  | succ n ih =>
    obtain ⟨d, s', others, hdraw, hothers, rfl⟩ := Source.take?_succ hdraws
    cases hfaces with
    | cons hface hrest =>
      have hdie := ih hothers hrest
      simp only [rollDice_succ, rollDie, hdraw, Except.bind, hface, hdie, Rolls.after,
        List.singleton_append]

theorem exists_faces {sides : Nat} (hs : 0 < sides) (hx : (Double.ofInt? sides).isSome)
    {draws : List Draw} (hdraws : ∀ d ∈ draws, d.InUnit) :
    ∃ faces, ShowsOn sides draws faces ∧ ∀ f ∈ faces, 1 ≤ f ∧ f ≤ (sides : Int) := by
  induction draws with
  | nil => exact ⟨[], .nil, fun f hf => nomatch hf⟩
  | cons d others ih =>
    obtain ⟨f, hface, hlow, hhigh⟩ := exists_face hs hx (hdraws d List.mem_cons_self)
    obtain ⟨faces, hfaces, hrange⟩ := ih fun d hd => hdraws d (List.mem_cons_of_mem _ hd)
    refine ⟨f :: faces, .cons hface hfaces, fun g hg => ?_⟩
    rcases List.mem_cons.mp hg with rfl | hg
    · exact ⟨hlow, hhigh⟩
    · exact hrange g hg

/-! ## What rolling never comes to

These are claims about every source, including those that run dry in the midst of the dice, so they
cannot be had from `rollDice_of_take?`. Each is an induction on the dice that are left. -/

theorem rollDatum_sides (t : Throw) (s : Source) :
    rollDatum (.int t.sides) s = rollDie t.sides s := rollDatum_natCast t.sides_pos s

theorem face_ne_dice (sides : Nat) (d : Draw) (e : DiceError) :
    face sides d ≠ .error (.dice e) := by
  intro h
  unfold face at h
  split at h
  · cases h
  · split at h <;> cases h

theorem face_mem {sides : Nat} {d : Draw} {f : Int} (hs : 0 < sides) (hd : d.InUnit)
    (h : face sides d = .ok f) : 1 ≤ f ∧ f ≤ (sides : Int) := by
  have hx : (Double.ofInt? sides).isSome := by
    cases hx : Double.ofInt? sides with
    | some x => rfl
    | none =>
      simp only [face, hx] at h
      cases h
  obtain ⟨g, hg, hrange⟩ := exists_face hs hx hd
  rw [hg] at h
  cases h
  exact hrange

theorem rollDice_mem {sides : Nat} (hs : 0 < sides) (n : Nat) {s : Source} (hunit : s.InUnit) :
    ∀ f ∈ (rollDice sides n s).faces, 1 ≤ f ∧ f ≤ (sides : Int) := by
  induction n generalizing s with
  | zero => exact fun f hf => nomatch hf
  | succ n ih =>
    intro f hf
    rw [rollDice_succ, rollDie] at hf
    cases hdraw : s.draw? with
    | none => rw [hdraw] at hf; cases hf
    | some p =>
      obtain ⟨first, rest⟩ := p
      obtain ⟨hfirst, hrest⟩ := Source.inUnit_draw? hunit hdraw
      simp only [hdraw] at hf
      -- Where the rolling stops, the list of faces ends.
      cases first with
      | error fault => cases hf
      | ok d =>
        simp only [Except.bind] at hf
        cases hface : face sides d with
        | error fault => rw [hface] at hf; cases hf
        | ok g =>
          rw [hface] at hf
          rcases List.mem_append.mp hf with hf | hf
          · rw [List.mem_singleton.mp hf]
            exact face_mem hs (hfirst d rfl) hface
          · exact ih hrest f hf

theorem rollDice_stopped {sides n : Nat} {s : Source} (hs : s.IsBlameless) (e : DiceError) :
    (rollDice sides n s).stopped ≠ some (.dice e) := by
  induction n generalizing s with
  | zero => exact fun h => nomatch h
  | succ n ih =>
    rw [rollDice_succ, rollDie]
    cases hdraw : s.draw? with
    | none => exact fun h => nomatch h
    | some p =>
      obtain ⟨first, rest⟩ := p
      obtain ⟨hfirst, hrest⟩ := Source.isBlameless_draw? hs hdraw
      cases first with
      | error fault =>
        intro h
        have hfault : fault = .dice e := Option.some.inj h
        exact hfirst e (by rw [hfault])
      | ok d =>
        simp only [Except.bind]
        cases hface : face sides d with
        | ok f => exact ih hrest
        | error fault =>
          intro h
          have hfault : fault = .dice e := Option.some.inj h
          exact face_ne_dice sides d e (by rw [hface, hfault])

theorem length_rollDice_le (sides n : Nat) (s : Source) :
    (rollDice sides n s).faces.length ≤ n := by
  induction n generalizing s with
  | zero => exact Nat.le_refl 0
  | succ n ih =>
    rw [rollDice_succ]
    split
    · next rest hdie =>
      rw [Rolls.after, List.length_append, List.length_singleton, Nat.add_comm]
      exact Nat.succ_le_succ (ih rest)
    · exact Nat.zero_le _

theorem length_rollDice {sides n : Nat} {s : Source} (h : (rollDice sides n s).stopped = none) :
    (rollDice sides n s).faces.length = n := by
  induction n generalizing s with
  | zero => rfl
  | succ n ih =>
    rw [rollDice_succ] at h ⊢
    split at h
    · next face rest _ =>
      have hothers : (rollDice sides n rest).faces.length = n := ih h
      rw [Rolls.after, List.length_append, hothers, List.length_singleton, Nat.add_comm]
    · cases h

theorem rollDice_stopped_twister {sides n : Nat} (hs : 0 < sides) {state : Twister} {fault : Fault}
    (h : (rollDice sides n (.twister state)).stopped = some fault) :
    fault = .beyondDoubles ∧ Double.ofInt? sides = none := by
  induction n generalizing state with
  | zero => cases h
  | succ n ih =>
    simp only [rollDice_succ, rollDie, Source.draw?_twister, Except.bind] at h
    -- All dice have the same sides, so if one is rolled, then so is the next.
    cases hx : Double.ofInt? sides with
    | none =>
      have hface : face sides state.draw.1 = .error .beyondDoubles := by simp only [face, hx]
      rw [hface] at h
      cases h
      exact ⟨rfl, rfl⟩
    | some x =>
      have hsides : (Double.ofInt? sides).isSome := by rw [hx]; rfl
      obtain ⟨f, hface, -⟩ := exists_face hs hsides state.isFair_draw.inUnit
      rw [hface] at h
      obtain ⟨-, hnone⟩ := ih h
      rw [hx] at hnone
      cases hnone

theorem rollDice_of_ofInt?_eq_none {sides n : Nat} (hn : 0 < n) (hx : Double.ofInt? sides = none)
    (state : Twister) :
    (rollDice sides n (.twister state)).faces = [] ∧
    (rollDice sides n (.twister state)).stopped = some .beyondDoubles := by
  obtain ⟨n, rfl⟩ := Nat.exists_eq_succ_of_ne_zero (Nat.ne_of_gt hn)
  have hdie : rollDie sides (.twister state) = (.error .beyondDoubles, .twister state.draw.2) := by
    simp only [rollDie, Source.draw?_twister, Except.bind, face, hx]
  rw [rollDice_succ, hdie]
  exact ⟨rfl, rfl⟩

end Dicebox
