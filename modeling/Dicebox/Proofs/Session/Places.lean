import Dicebox.Proofs.Session.Commands
import Dicebox.Proofs.Session.Flattening

/-!
# What operations do to the sources

Of the operations only few look at the sources of a session, and each names the one that it uses or
creates (`Operation.used?`, `Operation.created?`). There are five things that can happen to the
sources (`Sources.Moves`), and

> **an operation moves the sources only by the names it has** (`moves_after`).

The rest of the file says what these moves do to a single name: where it leads is always a place
(`Sources.IsSound`), and as long as no other name leads there (`Sources.Unshared`) the source that
is seen under it (`Sources.see`) is moved by no operation but those that have the name.
-/

set_option autoImplicit false

namespace Dicebox.Session

/-! ## The names that an operation has

They can be read off the operation without knowing the session. An operation may have two of them,
when a source is made from another, and then the second name may lead to the place of the first. -/

namespace Operation

/-- The source that is chosen for an operation, where one is. -/
def choice? : Operation → Option SourceChoice
  | .evaluate _ how | .throwText _ _ how | .report _ _ how => some how.source
  | .roll _ source _ | .newSource _ source _ => some source
  | _ => none

/-- The name of the source that an operation uses. An operation that brings its own source, by a
seed or a script, uses none. -/
def used? (operation : Operation) : Option Name :=
  match operation.choice? with
  | some (.named name) => some name
  | _ => none

theorem used?_of_choice? {operation : Operation} {choice : SourceChoice}
    (h : operation.choice? = some choice) (name : Name) (hname : choice = .named name) :
    operation.used? = some name := by
  rw [used?, h, hname]

/-- The name that an operation gives to a source. What cannot be a name creates none, and the
operation is refused. -/
def created? : Operation → Option Name
  | .newSource (some name) _ _ => (Name.of? name).toOption
  | _ => none

/-- Whether an operation uses or creates the source of a name. -/
def touches (g : Name) (operation : Operation) : Bool :=
  operation.used?.any (· == g) || operation.created?.any (· == g)

end Operation

namespace Sources

/-- Each name that stands for something leads to a place that is there. So a search by name fails
only for an unknown name, and never half way. -/
def IsSound (s : Sources) : Prop :=
  ∀ name i, s.names.find? name = some (some i) → i < s.cells.size

/-- What can be seen under a name: nothing if it is unknown, and otherwise the source, unless the
name stands for none. -/
def see (s : Sources) (g : Name) : Option (Option Source) :=
  (s.names.find? g).bind fun place => place.elim (some none) fun i => s.cells[i]?.map some

/-- Only one name leads to where this one leads.

Names are compared as keys are, so that two spellings of one number are one name here. A name that
leads nowhere is unshared. -/
def Unshared (s : Sources) (g : Name) : Prop :=
  ∀ name i, s.names.find? name = some (some i) → s.names.find? g = some (some i) →
    (name == g) = true

/-- What can happen to the sources when the source of one name is used and that of another is
created. -/
inductive Moves (used? created? : Option Name) (s : Sources) : Sources → Prop
  | stays : Moves used? created? s s
  /-- Some of the source is drawn, and the rest left. -/
  | draws {name : Name} {i : Nat} (rest : Source) (huse : used? = some name)
      (hplace : s.names.find? name = some (some i)) : Moves used? created? s (s.put i rest)
  | adds {name : Name} (source : Source) (hname : created? = some name) :
      Moves used? created? s (s.add name source)
  | voids {name : Name} (hname : created? = some name) :
      Moves used? created? s (s.point name none)
  /-- The source gets a second name. -/
  | shares {name other : Name} {i : Nat} (hname : created? = some name) (huse : used? = some other)
      (hplace : s.names.find? other = some (some i)) :
      Moves used? created? s (s.point name (some i))

/-! ## The moves of operations

Most operations leave the sources alone, and for each of them this is seen by carrying it out. What
remains are throws, reports, single dice and new sources. -/

theorem exists_of_find_kept {s : Sources} {choice : SourceChoice} {entropy : Int} {i : Nat}
    {source : Source} (h : s.find choice entropy = .ok (.kept i source)) :
    ∃ name, choice = .named name ∧ s.names.find? name = some (some i) ∧
      s.cells[i]? = some source := by
  cases choice with
  | named name =>
    rw [find] at h
    cases hplace : s.names.find? name with
    | none => rw [hplace] at h; cases h
    | some place =>
      cases place with
      | none => rw [hplace] at h; cases h
      | some j =>
        rw [hplace] at h
        cases hsource : s.cells[j]? with
        | none => simp only [hsource] at h; cases h
        | some source' =>
          simp only [hsource] at h
          cases h
          exact ⟨name, rfl, hplace, hsource⟩
  | seeded seed =>
    rw [find] at h
    cases hseed : Source.ofSeed seed entropy with
    | error fault => rw [hseed] at h; cases h
    | ok source' => rw [hseed] at h; cases h
  | nothing => cases h
  | scripted draws => cases h
  | senseless fault => cases h

theorem moves_leave {s : Sources} {choice : SourceChoice} {entropy : Int} {found : Found}
    (h : s.find choice entropy = .ok found) (rest : Source) {used? created? : Option Name}
    (hused : ∀ name, choice = .named name → used? = some name) :
    Moves used? created? s (s.leave found rest) := by
  cases found with
  | nothing => exact .stays
  | fresh source => exact .stays
  | kept i source =>
    obtain ⟨name, hname, hplace, -⟩ := exists_of_find_kept h
    exact .draws rest (hused name hname) hplace

theorem moves_introduce {s after : Sources} {name : Name} {choice : SourceChoice} {entropy : Int}
    (h : s.introduce name choice entropy = .ok after) {used? : Option Name}
    (hused : ∀ name, choice = .named name → used? = some name) :
    Moves used? (some name) s after := by
  rw [introduce] at h
  cases hfound : s.find choice entropy with
  | error fault => rw [hfound] at h; cases h
  | ok found =>
    rw [hfound] at h
    cases found with
    | nothing => cases h; exact .voids rfl
    | fresh source => cases h; exact .adds source rfl
    | kept i source =>
      cases h
      obtain ⟨other, hother, hplace, -⟩ := exists_of_find_kept hfound
      exact .shares rfl (hused other hother) hplace

end Sources

section

variable {α : Type} {s : State} {used? created? : Option Name} {how : Circumstances}

theorem moves_runOn {run : Source → Run α × Source} {without : Fault → Run α} {done : Run α}
    {after : State} (h : runOn how run without s = .ok (done, after))
    (hused : ∀ name, how.source = .named name → used? = some name) :
    Sources.Moves used? created? s.sources after.sources := by
  obtain ⟨found, source, hfound, -, rfl⟩ | ⟨source, -, rfl⟩ | ⟨fault, -, rfl⟩ := exists_of_runOn h
  · exact Sources.moves_leave hfound _ hused
  · exact .stays
  · exact .stays

theorem moves_throwOn (throw : Source → Run Draft.Thrown × Source)
    (without : Fault → Run Draft.Thrown)
    (hused : ∀ name, how.source = .named name → used? = some name) :
    Sources.Moves used? created? s.sources (throwOn how throw without s).state.sources := by
  rw [throwOn]
  cases hrun : runOn how throw without s with
  | error fault => exact .stays
  | ok done =>
    obtain ⟨run, after⟩ := done
    show Sources.Moves used? created? s.sources after.sources
    exact moves_runOn hrun hused

end

/-- An operation moves the sources only by the names it has.

This is all that is said about single operations. Whatever follows is about the five moves, so a new
sort of operation would need one more case here and nothing else. -/
theorem moves_after (s : State) (operation : Operation) :
    Sources.Moves operation.used? operation.created? s.sources (s.after operation).sources := by
  rw [State.after]
  cases operation with
  | evaluate figures how =>
    rw [performOperation]
    cases figures.toDraft with
    | error fault => exact .stays
    | ok d =>
      obtain ⟨throw, without, hthrow⟩ := exists_throwDraft_eq how d
      show Sources.Moves _ _ _ (throwDraft how d s).state.sources
      rw [hthrow]
      exact moves_throwOn throw without (Operation.used?_of_choice? rfl)
  | throwText given limits how =>
    rw [performOperation]
    obtain ⟨fault, hthrow⟩ | ⟨throw, without, hthrow⟩ := throwText_cases given limits how
    · rw [hthrow]
      exact .stays
    · rw [hthrow]
      exact moves_throwOn throw without (Operation.used?_of_choice? rfl)
  | report given limits how =>
    rw [performOperation, reportOnText]
    cases hrun : runOn how (reportOnSource given limits) (reportWithout given limits) s with
    | error fault => exact .stays
    | ok done =>
      obtain ⟨run, after⟩ := done
      show Sources.Moves _ _ _ after.sources
      exact moves_runOn hrun (Operation.used?_of_choice? rfl)
  | roll sides source entropy =>
    rw [performOperation, rollOn]
    cases hfound : s.sources.find source entropy with
    | error fault => exact .stays
    | ok found =>
      -- What has to be there besides the source is looked at before anything is drawn.
      cases sides with
      | none => exact .stays
      | some sides =>
        simp only [required, bind, Except.bind]
        cases sides.items with
        | error fault => exact .stays
        | ok sides =>
          simp only [pure, Except.pure]
          cases found.source? with
          | none => exact .stays
          | some drawn =>
            show Sources.Moves _ _ _ (s.sources.leave found _)
            exact Sources.moves_leave hfound _ (Operation.used?_of_choice? rfl)
  | newSource name source entropy =>
    rw [performOperation]
    simp only [bind, Except.bind]
    cases hfound : s.sources.find source entropy with
    | error fault => exact .stays
    | ok found =>
      cases name with
      | none => exact .stays
      | some given =>
        simp only [required]
        cases hname : Name.of? given with
        | error fault => exact .stays
        | ok name =>
          dsimp only
          cases hintroduced : s.sources.introduce name source entropy with
          | error fault => exact .stays
          | ok sources =>
            have hcreated : (Operation.newSource (some given) source entropy).created? =
                some name := by rw [Operation.created?, hname]; rfl
            rw [hcreated]
            exact Sources.moves_introduce hintroduced (Operation.used?_of_choice? rfl)
  | command name inv =>
    rw [performOperation, performCommand_state]
    exact .stays
  | commandLine arguments place entropy =>
    rw [performOperation, performCommandLine]
    cases CommandLine.argumentsOf arguments with
    | error fault => exact .stays
    | ok items => exact .stays
  | increment counter value =>
    rw [performOperation, performIncrement]
    cases Name.of? counter with
    | error fault => exact .stays
    | ok name => exact .stays
  | observe histogram value bounds =>
    rw [performOperation, performObserve]
    cases observationOf histogram value with
    | error fault => exact .stays
    | ok observation => exact .stays
  | _ => exact .stays

/-! ## What the moves do to a name

A name leads to a number, and the number to a cell. Cells are only ever added or overwritten, and
never taken away, so a name that once led to a cell always does (`Moves.isSound`). -/

namespace Sources

variable {s after : Sources} {g name : Name} {used? created? : Option Name}

theorem size_put (s : Sources) (i : Nat) (source : Source) :
    (s.put i source).cells.size = s.cells.size := Array.size_setIfInBounds

theorem find?_point (s : Sources) (name other : Name) (place : Option Nat) :
    (s.point name place).names.find? other =
      if (other == name) = true then some place else s.names.find? other :=
  OrderedMap.find?_insert ..

theorem find?_add (s : Sources) (name other : Name) (source : Source) :
    (s.add name source).names.find? other =
      if (other == name) = true then some (some s.cells.size) else s.names.find? other :=
  OrderedMap.find?_insert ..

theorem see_of_find? (hs : s.IsSound) {i : Nat} (h : s.names.find? g = some (some i)) :
    ∃ source, s.cells[i]? = some source ∧ s.see g = some (some source) := by
  have hlt := hs g i h
  refine ⟨s.cells[i], Array.getElem?_eq_getElem hlt, ?_⟩
  rw [see, h]
  show s.cells[i]?.map some = _
  rw [Array.getElem?_eq_getElem hlt]
  rfl

theorem Moves.isSound (h : Moves used? created? s after) (hs : s.IsSound) : after.IsSound := by
  intro other j hj
  cases h with
  | stays => exact hs other j hj
  | draws rest huse hplace =>
    rw [size_put]
    exact hs other j hj
  | @adds name source hname =>
    rw [find?_add] at hj
    show j < (s.cells.push source).size
    rw [Array.size_push]
    split at hj
    · cases hj
      exact Nat.lt_succ_self _
    · exact Nat.lt_succ_of_lt (hs other j hj)
  | @voids name hname =>
    rw [find?_point] at hj
    split at hj
    · cases hj
    · exact hs other j hj
  | @shares name other' i hname huse hplace =>
    rw [find?_point] at hj
    split at hj
    · cases hj
      exact hs other' _ hplace
    · exact hs other j hj

theorem see_congr {s' : Sources} (hnames : s'.names.find? g = s.names.find? g)
    (hcells : ∀ i, s.names.find? g = some (some i) → s'.cells[i]? = s.cells[i]?) :
    s'.see g = s.see g := by
  rw [see, see, hnames]
  cases hplace : s.names.find? g with
  | none => rfl
  | some place =>
    cases place with
    | none => rfl
    | some i => exact congrArg (Option.map some) (hcells i hplace)

/-! ### Seeing -/

theorem see_point_none (hname : (g == name) = true) : (s.point name none).see g = some none := by
  rw [see, find?_point, if_pos hname]
  rfl

theorem see_point_of_ne (hname : ¬(g == name) = true) (place : Option Nat) :
    (s.point name place).see g = s.see g :=
  see_congr (by rw [find?_point, if_neg hname]) fun _ _ => rfl

theorem see_point_self {i : Nat} (hplace : s.names.find? g = some (some i)) :
    (s.point name (some i)).see g = s.see g := by
  refine see_congr ?_ fun _ _ => rfl
  rw [find?_point, hplace]
  exact ite_self _

theorem see_add (hname : (g == name) = true) (source : Source) :
    (s.add name source).see g = some (some source) := by
  have hlast : (s.add name source).cells[s.cells.size]? = some source := Array.getElem?_push_size
  rw [see, find?_add, if_pos hname]
  show (s.add name source).cells[s.cells.size]?.map some = _
  rw [hlast]
  rfl

/-! ### Sharing -/

theorem unshared_point_of_ne (hg : s.Unshared g) (hne : (g == name) = false) {place : Option Nat}
    (hplace : ∀ i, place = some i → s.names.find? g ≠ some (some i)) :
    (s.point name place).Unshared g := by
  intro other i hother hsame
  rw [find?_point] at hother hsame
  rw [hne] at hsame
  split at hother
  · exact absurd hsame (hplace i (Option.some.inj hother))
  · exact hg other i hother hsame

theorem unshared_point_none (hg : s.Unshared g) : (s.point name none).Unshared g := by
  cases hname : g == name with
  | false => exact unshared_point_of_ne hg hname nofun
  | true =>
    intro other i hother hsame
    rw [find?_point, if_pos hname] at hsame
    cases hsame

theorem unshared_add (hs : s.IsSound) (hg : s.Unshared g) (name : Name) (source : Source) :
    (s.add name source).Unshared g := by
  intro other i hother hsame
  rw [find?_add] at hother hsame
  split at hother
  · next h =>
    split at hsame
    · next hname => exact BEq.trans h (BEq.symm hname)
    · -- The new place is no place yet.
      cases hother
      exact absurd (hs g _ hsame) (Nat.lt_irrefl _)
  · split at hsame
    · cases hsame
      exact absurd (hs other _ hother) (Nat.lt_irrefl _)
    · exact hg other i hother hsame

theorem unshared_point_iff (hg : s.Unshared g) {i : Nat}
    (hplace : s.names.find? g = some (some i)) :
    (s.point name (some i)).Unshared g ↔ (g == name) = true := by
  have hself : (s.point name (some i)).names.find? g = some (some i) := by
    rw [find?_point, hplace]
    exact ite_self _
  constructor
  · intro h
    have hname : (s.point name (some i)).names.find? name = some (some i) := by
      rw [find?_point, if_pos BEq.rfl]
    exact BEq.symm (h name i hname hself)
  · intro hname other j hother hsame
    rw [hself] at hsame
    cases hsame
    rw [find?_point] at hother
    split at hother
    · next h => exact BEq.trans h (BEq.symm hname)
    · exact hg other i hother hplace

/-! ### The moves -/

/-- A name remains the only one for its source, unless the source is given a second name or the name
to a second source. -/
theorem Moves.unshared (h : Moves used? created? s after) (hs : s.IsSound) (hg : s.Unshared g)
    (hapart : ∀ {name other}, created? = some name → used? = some other →
      (other == g) = (name == g)) : after.Unshared g := by
  cases h with
  | stays => exact hg
  | draws rest huse hplace => exact hg
  | @adds name source hname => exact unshared_add hs hg name source
  | voids hname => exact unshared_point_none hg
  | @shares name other i hname huse hplace =>
    have hsame := hapart hname huse
    cases hother : other == g with
    | true =>
      have hself : s.names.find? g = some (some i) := by
        rwa [← OrderedMap.find?_congr _ hother]
      exact (unshared_point_iff hg hself).mpr (BEq.symm (hsame.symm.trans hother))
    | false =>
      refine unshared_point_of_ne hg (BEq.comm.trans (hsame.symm.trans hother)) ?_
      intro j hj hself
      -- Then the name of the other source would lead to the place of this one already.
      obtain rfl := Option.some.inj hj
      exact Bool.eq_false_iff.mp hother (hg other i hplace hself)

theorem eq_false_of_any {name? : Option Name} (h : name?.any (· == g) = false) {name : Name}
    (hname : name? = some name) : (name == g) = false := by
  rwa [hname] at h

/-- Without its name nothing moves what is seen under it.

It is not enough that the name itself is not used. If it shared its place with another one, drawing
by the other name would show under this one, and this is where `Unshared` is needed. -/
theorem Moves.see_eq (h : Moves used? created? s after) (hs : s.IsSound) (hg : s.Unshared g)
    (hused : used?.any (· == g) = false) (hcreated : created?.any (· == g) = false) :
    after.see g = s.see g := by
  have hne : ∀ {name : Name}, created? = some name → ¬(g == name) = true := fun hname hsame =>
    Bool.eq_false_iff.mp (eq_false_of_any hcreated hname) (BEq.symm hsame)
  cases h with
  | stays => rfl
  | @draws name i rest huse hplace =>
    refine see_congr rfl fun j hj => ?_
    have hij : i ≠ j := by
      rintro rfl
      exact Bool.eq_false_iff.mp (eq_false_of_any hused huse) (hg name i hplace hj)
    exact Array.getElem?_setIfInBounds_ne hij
  | @adds name source hname =>
    refine see_congr (by rw [find?_add, if_neg (hne hname)]) fun j hj => ?_
    show (s.cells.push source)[j]? = s.cells[j]?
    rw [Array.getElem?_push_lt (hs g j hj), Array.getElem?_eq_getElem (hs g j hj)]
  | voids hname => exact see_point_of_ne (hne hname) none
  | shares hname huse hplace => exact see_point_of_ne (hne hname) _

end Sources

end Dicebox.Session
