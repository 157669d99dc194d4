import Dicebox.Proofs.Throw.Rolling

/-!
# Dice and draws in step

Dice of all kinds are rolled one after another on one source, and among what is asked for there may
be things that are no number of sides at all. These are found out before a draw is taken. Everything
else takes one draw, and be it a number of sides so large that nothing comes of it: the draw is gone
before that is noticed. Hence

> **what is no number of sides leaves no trace but its own refusal**
> (`refused_sides_leave_no_trace`):

the draws go to the dice in order, and the refused data among them may be left out, or others put
in, without any other result or the source at the end being a different one.

What is left out or put in is marked in the longer of the two lists (`unmarked`), so that one law
serves for both (`rollAll_unmarked`). It does not even take a source with enough draws; only where
it is said which draw goes to which die, there have to be so many (`take?_add`).
-/

set_option autoImplicit false

namespace Dicebox

open Number

/-! ## What is refused

Whether something is a number of sides is decided by the datum alone. Whether the number of sides
can be rolled is not asked before a draw has been taken. -/

/-- A datum that is no number of sides: it is no integer, or one below one. -/
def RefusedAsSides (v : Datum) : Prop := ∀ n : Int, v = .int n → n < 1

/-- How many of some data are numbers of sides. Each of them takes a draw. -/
def wanted (values : List Datum) : Nat := (values.filterMap sides?).length

theorem sides?_eq_none_iff {v : Datum} : sides? v = none ↔ RefusedAsSides v := by
  constructor
  · rintro h n rfl
    rw [sides?] at h
    split at h
    · cases h
    · next hn => exact Int.not_le.mp hn
  · intro h
    unfold sides?
    split
    · next n => rw [if_neg (Int.not_le.mpr (h n rfl))]
    · rfl

theorem wanted_append (before others : List Datum) :
    wanted (before ++ others) = wanted before + wanted others := by
  rw [wanted, List.filterMap_append, List.length_append]
  rfl

theorem wanted_cons_of_none {v : Datum} (h : sides? v = none) (others : List Datum) :
    wanted (v :: others) = wanted others := by
  rw [wanted, List.filterMap_cons_none h]
  rfl

theorem wanted_cons_of_some {v : Datum} {n : Nat} (h : sides? v = some n) (others : List Datum) :
    wanted (v :: others) = wanted others + 1 := by
  rw [wanted, List.filterMap_cons_some h]
  rfl

theorem rollDatum_of_none {v : Datum} (h : sides? v = none) (s : Source) :
    rollDatum v s = (.error (.dice (.invalidSides v)), s) := by
  rw [rollDatum, h]

theorem rollDatum_of_some {v : Datum} {n : Nat} (h : sides? v = some n) {s rest : Source} {d : Draw}
    (hdraw : s.draw? = some (.ok d, rest)) : rollDatum v s = (face n d, rest) := by
  simp only [rollDatum, h, rollDie, hdraw, Except.bind]

theorem face_of_ofInt?_eq_none {sides : Nat} (h : Double.ofInt? sides = none) (d : Draw) :
    face sides d = .error .beyondDoubles := by
  simp only [face, h]

/-! ## One after another -/

theorem rollAll_cons (v : Datum) (others : List Datum) (s : Source) :
    rollAll (v :: others) s =
      ((rollDatum v s).1 :: (rollAll others (rollDatum v s).2).1,
        (rollAll others (rollDatum v s).2).2) := rfl

theorem rollAll_append (before others : List Datum) (s : Source) :
    rollAll (before ++ others) s =
      ((rollAll before s).1 ++ (rollAll others (rollAll before s).2).1,
        (rollAll others (rollAll before s).2).2) := by
  induction before generalizing s with
  | nil => rfl
  | cons v before ih => rw [List.cons_append, rollAll_cons, ih, rollAll_cons, List.cons_append]

theorem length_rollAll (values : List Datum) (s : Source) :
    (rollAll values s).1.length = values.length := by
  induction values generalizing s with
  | nil => rfl
  | cons v others ih => rw [rollAll_cons, List.length_cons, ih, List.length_cons]

theorem getElem?_at_length {α : Type} (before : List α) (a : α) (others : List α) :
    (before ++ a :: others)[before.length]? = some a := by
  rw [List.getElem?_append_right (Nat.le_refl _), Nat.sub_self, List.getElem?_cons_zero]

/-- Each result is that of its datum, on the source that those before it have left. -/
theorem getElem?_rollAll (before : List Datum) (v : Datum) (others : List Datum) (s : Source) :
    (rollAll (before ++ v :: others) s).1[before.length]? =
      some (rollDatum v (rollAll before s).2).1 := by
  rw [rollAll_append, rollAll_cons, ← length_rollAll before s]
  exact getElem?_at_length ..

/-! ## Draws for all of them

A source that is handed from one die to the next is hard to compare with a list of draws. So the
draws are taken beforehand, as many as will be wanted, and then split where the die stands. -/

theorem Source.take?_add {m n : Nat} {s rest : Source} {draws : List Draw}
    (h : s.take? (m + n) = some (draws, rest)) :
    ∃ first here others, s.take? m = some (first, here) ∧ here.take? n = some (others, rest) ∧
      draws = first ++ others := by
  induction m generalizing s draws with
  | zero =>
    rw [Nat.zero_add] at h
    exact ⟨[], s, draws, rfl, h, rfl⟩
  | succ m ih =>
    rw [Nat.succ_add] at h
    obtain ⟨d, s', later, hdraw, hlater, rfl⟩ := take?_succ h
    obtain ⟨first, here, others, hfirst, hothers, rfl⟩ := ih hlater
    refine ⟨d :: first, here, others, ?_, hothers, rfl⟩
    rw [take?, hdraw, Option.bind_eq_bind, Option.bind_some]
    simp only [Except.toOption, Option.bind_eq_bind, Option.bind_some, hfirst]
    rfl

/-- If there are enough draws, then so many are taken as there are numbers of sides, and the source
is left where it is left when they are taken without any dice. -/
theorem rollAll_rest {values : List Datum} {s rest : Source} {draws : List Draw}
    (h : s.take? (wanted values) = some (draws, rest)) : (rollAll values s).2 = rest := by
  induction values generalizing s draws with
  | nil =>
    cases h
    rfl
  | cons v others ih =>
    rw [rollAll_cons]
    cases hsides : sides? v with
    | none =>
      rw [wanted_cons_of_none hsides] at h
      rw [rollDatum_of_none hsides]
      exact ih h
    | some n =>
      rw [wanted_cons_of_some hsides] at h
      obtain ⟨d, s', later, hdraw, hlater, -⟩ := Source.take?_succ h
      rw [rollDatum_of_some hsides hdraw]
      exact ih hlater

/-- The draw that a number of sides finds is the one that stands where it does among the numbers of
sides. -/
theorem exists_draw_at {before others : List Datum} {v : Datum} {n : Nat} {s rest : Source}
    {draws : List Draw} (hsides : sides? v = some n)
    (h : s.take? (wanted (before ++ v :: others)) = some (draws, rest)) :
    ∃ d s', draws[wanted before]? = some d ∧ (rollAll before s).2.draw? = some (.ok d, s') := by
  rw [wanted_append, wanted_cons_of_some hsides] at h
  obtain ⟨first, here, later, hfirst, hlater, rfl⟩ := Source.take?_add h
  obtain ⟨d, s', following, hdraw, -, rfl⟩ := Source.take?_succ hlater
  refine ⟨d, s', ?_, by rw [rollAll_rest hfirst, hdraw]⟩
  rw [← Source.length_of_take? hfirst]
  exact getElem?_at_length ..

/-! ## Leaving out and putting in -/

/-- What is left of a list if the marked places are left out. -/
def unmarked {α : Type} : List Bool → List α → List α
  | mark :: marks, a :: others => if mark then unmarked marks others else a :: unmarked marks others
  | _, _ => []

/-- Refused data may be left out of a list, or put into it, and nothing else changes.

By the list, for any source. This needs no draws at all: a source that runs dry does so at the same
die with the refused data and without them. -/
theorem rollAll_unmarked {marks : List Bool} {values : List Datum} (s : Source)
    (hlength : marks.length = values.length)
    (hrefused : ∀ e ∈ values.zip marks, e.2 = true → RefusedAsSides e.1) :
    rollAll (unmarked marks values) s =
      (unmarked marks (rollAll values s).1, (rollAll values s).2) := by
  induction values generalizing marks s with
  | nil =>
    rw [List.length_eq_zero_iff.mp hlength]
    rfl
  | cons v others ih =>
    obtain ⟨mark, marks, rfl⟩ := List.exists_cons_of_length_eq_add_one hlength
    have hothers : ∀ e ∈ others.zip marks, e.2 = true → RefusedAsSides e.1 :=
      fun e he => hrefused e (List.mem_cons_of_mem _ he)
    have hrest := ih (rollDatum v s).2 (Nat.succ.inj hlength) hothers
    cases mark with
    | false =>
      show rollAll (v :: unmarked marks others) s = _
      rw [rollAll_cons, hrest]
      rfl
    | true =>
      -- The refusal is left out, and the source is where it was.
      have hnone : sides? v = none :=
        sides?_eq_none_iff.mpr (hrefused (v, true) List.mem_cons_self rfl)
      have hsource : (rollDatum v s).2 = s := by rw [rollDatum_of_none hnone]
      rw [hsource] at hrest
      show rollAll (unmarked marks others) s = _
      rw [hrest, rollAll_cons, hsource]
      rfl

/-- Refused data leave no trace in the rolling of the others.

On a source with enough draws, what is no number of sides is refused and takes no draw, and anything
else takes the next one, also if its sides are too many for a double. So the draws go to the numbers
of sides in order. To leave refused data out, or to put others in, changes neither the results of
what remains nor the source in the end. -/
theorem refused_sides_leave_no_trace {values : List Datum} {s rest : Source} {draws : List Draw}
    (henough : s.take? (wanted values) = some (draws, rest)) :
    let results := (rollAll values s).1
    (rollAll values s).2 = rest ∧ results.length = values.length ∧
    (∀ before v others, values = before ++ v :: others →
      let here := (rollAll before s).2
      (RefusedAsSides v →
        rollDatum v here = (.error (.dice (.invalidSides v)), here) ∧
        results[before.length]? = some (.error (.dice (.invalidSides v)))) ∧
      (∀ n : Int, v = .int n → 1 ≤ n → ∃ d : Draw,
        draws[wanted before]? = some d ∧ here.draw? = some (.ok d, (rollDatum v here).2) ∧
        results[before.length]? = some (face n.toNat d) ∧
        (2 ^ 1024 - 2 ^ 970 ≤ n → face n.toNat d = .error .beyondDoubles))) ∧
    (∀ marks : List Bool, marks.length = values.length →
      (∀ e ∈ values.zip marks, e.2 = true → RefusedAsSides e.1) →
      rollAll (unmarked marks values) s = (unmarked marks results, rest)) ∧
    (∀ (marks : List Bool) (longer : List Datum), marks.length = longer.length →
      (∀ e ∈ longer.zip marks, e.2 = true → RefusedAsSides e.1) →
      unmarked marks longer = values →
      unmarked marks (rollAll longer s).1 = results ∧ (rollAll longer s).2 = rest) := by
  intro results
  have hrest : (rollAll values s).2 = rest := rollAll_rest henough
  refine ⟨hrest, length_rollAll values s, ?_, ?_, ?_⟩
  · rintro before v others rfl here
    have hresult : results[before.length]? = some (rollDatum v here).1 :=
      getElem?_rollAll before v others s
    rw [hresult]
    refine ⟨fun hrefused => ?_, ?_⟩
    · rw [rollDatum_of_none (sides?_eq_none_iff.mpr hrefused)]
      exact ⟨rfl, rfl⟩
    · rintro n rfl hn
      have hsides := sides?_int hn
      obtain ⟨d, s', hd, hdraw⟩ := exists_draw_at hsides henough
      have hroll := rollDatum_of_some hsides hdraw
      refine ⟨d, hd, by rw [hroll, hdraw], by rw [hroll], fun hlarge => ?_⟩
      refine face_of_ofInt?_eq_none (Option.not_isSome_iff_eq_none.mp fun hsome => ?_) d
      have hlt := Double.isSome_ofInt?_iff.mp hsome
      omega
  · intro marks hlength hrefused
    rw [rollAll_unmarked s hlength hrefused, hrest]
  · rintro marks longer hlength hrefused rfl
    have hshorter := rollAll_unmarked s hlength hrefused
    exact ⟨(congrArg Prod.fst hshorter).symm, by rw [← hrest, hshorter]⟩

/-- Between two dice there are a truth value, more sides than a double can hold, and none at all.
The dice show what they would show on the first draw and on the third, the second having been lost.
-/
theorem refused_sides_leave_no_trace_between :
    let draws : List Draw := [.fraction 0, .fraction 1, .fraction (2 ^ 52)]
    let s : Source := .scripted (draws.map .ok)
    let values : List Datum := [.int 6, .bool true, .int (2 ^ 1024), .int 0, .int 2]
    let marks := [false, true, false, true, false]
    let results := (rollAll values s).1
    s.take? (wanted values) = some (draws, .scripted []) ∧
    results[0]? = some (.ok 1) ∧
    results[1]? = some (.error (.dice (.invalidSides (.bool true)))) ∧
    results[2]? = some (.error .beyondDoubles) ∧
    results[3]? = some (.error (.dice (.invalidSides (.int 0)))) ∧
    results[4]? = some (.ok 2) ∧
    rollAll (unmarked marks values) s = (unmarked marks results, .scripted []) := by
  intro draws s values marks results
  have hwanted : wanted values = 3 := by decide +kernel
  have henough : s.take? (wanted values) = some (draws, .scripted []) := by rw [hwanted]; rfl
  have hrefused : ((values.zip marks).all fun e => !e.2 || (sides? e.1).isNone) = true := by
    decide +kernel
  have hmarked : ∀ e ∈ values.zip marks, e.2 = true → RefusedAsSides e.1 := by
    intro e he hmark
    have hnone := List.all_eq_true.mp hrefused e he
    rw [hmark] at hnone
    exact sides?_eq_none_iff.mp (Option.isNone_iff_eq_none.mp hnone)
  obtain ⟨-, -, hentries, hleft, -⟩ := refused_sides_leave_no_trace henough
  obtain ⟨-, hfirst⟩ := hentries [] (.int 6) [.bool true, .int (2 ^ 1024), .int 0, .int 2] rfl
  obtain ⟨d, hd, -, hfirst, -⟩ := hfirst 6 rfl (by decide)
  cases hd
  have hone : face 6 (.fraction 0) = .ok 1 := eq_ok_of_toOption (by decide +kernel)
  obtain ⟨hbool, -⟩ := hentries [.int 6] (.bool true) [.int (2 ^ 1024), .int 0, .int 2] rfl
  obtain ⟨-, hmany⟩ := hentries [.int 6, .bool true] (.int (2 ^ 1024)) [.int 0, .int 2] rfl
  obtain ⟨_, -, -, hmany, hface⟩ := hmany (2 ^ 1024) rfl (by decide +kernel)
  obtain ⟨hzero, -⟩ := hentries [.int 6, .bool true, .int (2 ^ 1024)] (.int 0) [.int 2] rfl
  obtain ⟨-, hlast⟩ := hentries [.int 6, .bool true, .int (2 ^ 1024), .int 0] (.int 2) [] rfl
  obtain ⟨d, hd, -, hlast, -⟩ := hlast 2 rfl (by decide)
  have hthird : wanted [.int 6, .bool true, .int (2 ^ 1024), .int 0] = 2 := by decide +kernel
  rw [hthird] at hd
  cases hd
  have htwo : face 2 (.fraction (2 ^ 52)) = .ok 2 := eq_ok_of_toOption (by decide +kernel)
  exact ⟨henough, hfirst.trans (congrArg some hone),
    (hbool (hmarked _ (.tail _ (.head _)) rfl)).2,
    hmany.trans (congrArg some (hface (by decide +kernel))),
    (hzero (hmarked _ (.tail _ (.tail _ (.tail _ (.head _)))) rfl)).2,
    hlast.trans (congrArg some htwo), hleft marks rfl hmarked⟩

end Dicebox
