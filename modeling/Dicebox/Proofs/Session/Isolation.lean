import Dicebox.Proofs.Session.Places

/-!
# Generators are isolated

What is drawn under a name is not disturbed by what is done in between:

> **two sessions that use a generator in the same way hear the same from it, whatever else they do**
> (`generator_isolated`).

All that an operation learns of the session by a name is what can be seen under it (`Sources.see`),
and what it leaves there depends on that alone (`Alike.touching`). The other operations leave it as
it is (`Alike.other`). So a session is compared with the operations that have the name, done alone
(`Alike.heardIn_eq`).

The name must not be one of two for the same generator. That is said of the states that the session
goes through (`IsUnaliased`), and holds if no operation gives a second name to it
(`isUnaliased_of_forall`).
-/

set_option autoImplicit false

namespace Dicebox.Session

/-- Two states in which the same is seen under a name, and under it alone. It is a relation and not
an equality, because the states come from sessions that may have nothing in common but this name. -/
structure Alike (g : Name) (s s' : State) : Prop where
  sound : s.sources.IsSound
  sound' : s'.sources.IsSound
  unshared : s.sources.Unshared g
  unshared' : s'.sources.Unshared g
  see : s.sources.see g = s'.sources.see g

/-! ## What is found by a name

Two states that are alike may have different cells, in which the same source stands at different
places. So it is not the place that is compared but what is found at it, and what can be seen after
something has been left there. -/

namespace Sources

variable {s s' : Sources} {g name : Name}

theorem find_of_see (hs : s.IsSound) (hname : (name == g) = true) (entropy : Int) :
    match s.see g with
    | none => s.find (.named name) entropy = .error (.unknownSource name.datum)
    | some none => s.find (.named name) entropy = .ok .nothing
    | some (some source) => ∃ i, s.find (.named name) entropy = .ok (.kept i source) ∧
        s.names.find? g = some (some i) := by
  rw [find, OrderedMap.find?_congr _ hname]
  cases hplace : s.names.find? g with
  | none =>
    have hsee : s.see g = none := by rw [see, hplace]; rfl
    rw [hsee]
  | some place =>
    cases place with
    | none =>
      have hsee : s.see g = some none := by rw [see, hplace]; rfl
      rw [hsee]
    | some i =>
      obtain ⟨source, hsource, hsee⟩ := see_of_find? hs hplace
      rw [hsee]
      exact ⟨i, by simp only [hsource], rfl⟩

/-- In sources that look alike under a name the same is found by any choice that is no other name:
nothing for the same reason, no source, the same new source, or the same source of the session.

Only the last case depends on the states, and only in where the source stands. -/
theorem find_cases (h : s.see g = s'.see g) (hs : s.IsSound) (hs' : s'.IsSound)
    {choice : SourceChoice} (hchoice : ∀ name, choice = .named name → (name == g) = true)
    (entropy : Int) :
    (∃ fault, s.find choice entropy = .error fault ∧ s'.find choice entropy = .error fault) ∨
    (s.find choice entropy = .ok .nothing ∧ s'.find choice entropy = .ok .nothing) ∨
    (∃ source, s.find choice entropy = .ok (.fresh source) ∧
      s'.find choice entropy = .ok (.fresh source) ∧ ∀ name, choice ≠ .named name) ∨
    ∃ i i' source, s.find choice entropy = .ok (.kept i source) ∧
      s'.find choice entropy = .ok (.kept i' source) ∧
      s.names.find? g = some (some i) ∧ s'.names.find? g = some (some i') := by
  cases choice with
  | nothing => exact .inr (.inl ⟨rfl, rfl⟩)
  | scripted draws =>
    exact .inr (.inr (.inl ⟨_, rfl, rfl, fun _ hnamed => SourceChoice.noConfusion hnamed⟩))
  | senseless fault => exact .inl ⟨fault, rfl, rfl⟩
  | seeded seed =>
    rw [find, find]
    cases Source.ofSeed seed entropy with
    | error fault => exact .inl ⟨fault, rfl, rfl⟩
    | ok source =>
      exact .inr (.inr (.inl ⟨source, rfl, rfl, fun _ hnamed => SourceChoice.noConfusion hnamed⟩))
  | named name =>
    have hname := hchoice name rfl
    have hfind := find_of_see hs hname entropy
    have hfind' := find_of_see hs' hname entropy
    rw [← h] at hfind'
    cases hsee : s.see g with
    | none =>
      rw [hsee] at hfind hfind'
      exact .inl ⟨_, hfind, hfind'⟩
    | some seen =>
      rw [hsee] at hfind hfind'
      cases seen with
      | none => exact .inr (.inl ⟨hfind, hfind'⟩)
      | some source =>
        obtain ⟨i, hkept, hplace⟩ := hfind
        obtain ⟨i', hkept', hplace'⟩ := hfind'
        exact .inr (.inr (.inr ⟨i, i', source, hkept, hkept', hplace, hplace'⟩))

theorem see_put (hs : s.IsSound) {i : Nat} (h : s.names.find? g = some (some i)) (rest : Source) :
    (s.put i rest).see g = some (some rest) := by
  have hput : (s.put i rest).names.find? g = some (some i) := h
  have hrest : (s.put i rest).cells[i]? = some rest :=
    Array.getElem?_setIfInBounds_self_of_lt (hs g i h)
  rw [see, hput]
  show (s.put i rest).cells[i]?.map some = _
  rw [hrest]
  rfl

theorem Moves.names_eq {after : Sources} {used? : Option Name} (h : Moves used? none s after) :
    after.names = s.names := by
  cases h with
  | stays => rfl
  | draws rest huse hplace => rfl
  | adds source hname => cases hname
  | voids hname => cases hname
  | shares hname huse hplace => cases hname

end Sources

/-! ## Drawing by a name

Throws, reports and single dice look for a source, draw from it and leave the rest. Each of them is
carried out in both states at once, and the cases of one go with the cases of the other. -/

/-- Two outcomes with the same reply, the counters aside, that leave the same to be seen. -/
structure SameFor (g : Name) (done done' : Performed) : Prop where
  reply : done.reply.withoutCounters = done'.reply.withoutCounters
  see : done.state.sources.see g = done'.state.sources.see g

namespace Alike

variable {g : Name} {s s' : State} {how : Circumstances} {choice : SourceChoice}

theorem find_cases (h : Alike g s s')
    (hchoice : ∀ name, choice = .named name → (name == g) = true) (entropy : Int) :
    (∃ fault, s.sources.find choice entropy = .error fault ∧
      s'.sources.find choice entropy = .error fault) ∨
    ∃ found found', s.sources.find choice entropy = .ok found ∧
      s'.sources.find choice entropy = .ok found' ∧ found.source? = found'.source? ∧
      ∀ rest, (s.sources.leave found rest).see g = (s'.sources.leave found' rest).see g := by
  obtain ⟨fault, hfind, hfind'⟩ | ⟨hfind, hfind'⟩ | ⟨source, hfind, hfind', -⟩ |
      ⟨i, i', source, hfind, hfind', hplace, hplace'⟩ :=
    Sources.find_cases h.see h.sound h.sound' hchoice entropy
  · exact .inl ⟨fault, hfind, hfind'⟩
  · exact .inr ⟨_, _, hfind, hfind', rfl, fun _ => h.see⟩
  · exact .inr ⟨_, _, hfind, hfind', rfl, fun _ => h.see⟩
  · refine .inr ⟨_, _, hfind, hfind', rfl, fun rest => ?_⟩
    show (s.sources.put i rest).see g = (s'.sources.put i' rest).see g
    rw [Sources.see_put h.sound hplace, Sources.see_put h.sound' hplace']

theorem runOn_cases {α : Type} (h : Alike g s s')
    (hchoice : ∀ name, how.source = .named name → (name == g) = true)
    (run : Source → Run α × Source) (without : Fault → Run α) :
    (∃ fault, runOn how run without s = .error fault ∧ runOn how run without s' = .error fault) ∨
    ∃ done t t', runOn how run without s = .ok (done, t) ∧
      runOn how run without s' = .ok (done, t') ∧ t.sources.see g = t'.sources.see g := by
  rw [runOn, runOn]
  obtain ⟨fault, hfind, hfind'⟩ | ⟨found, found', hfind, hfind', hsource, hleave⟩ :=
    h.find_cases hchoice how.entropy
  · rw [hfind, hfind']
    exact .inl ⟨fault, rfl, rfl⟩
  · rw [hfind, hfind']
    simp only [bind, Except.bind, hsource]
    -- Without a source of its own the throw is done on a new one, and the session stays out of it.
    cases found'.source? with
    | some source => exact .inr ⟨_, _, _, rfl, rfl, hleave _⟩
    | none =>
      cases Source.ofSeed how.seed how.entropy with
      | error fault => exact .inr ⟨_, s, s', rfl, rfl, h.see⟩
      | ok source => exact .inr ⟨_, s, s', rfl, rfl, h.see⟩

theorem throwOn_same (h : Alike g s s')
    (hchoice : ∀ name, how.source = .named name → (name == g) = true)
    (throw : Source → Run Draft.Thrown × Source) (without : Fault → Run Draft.Thrown) :
    SameFor g (throwOn how throw without s) (throwOn how throw without s') := by
  rw [throwOn, throwOn]
  obtain ⟨fault, hrun, hrun'⟩ | ⟨done, t, t', hrun, hrun', hsee⟩ :=
    h.runOn_cases hchoice throw without
  · rw [hrun, hrun']
    exact ⟨rfl, h.see⟩
  · rw [hrun, hrun']
    exact ⟨rfl, hsee⟩

theorem reportOnText_same (h : Alike g s s')
    (hchoice : ∀ name, how.source = .named name → (name == g) = true) (given limits : Datum) :
    SameFor g (reportOnText given limits how s) (reportOnText given limits how s') := by
  rw [reportOnText, reportOnText]
  obtain ⟨fault, hrun, hrun'⟩ | ⟨done, t, t', hrun, hrun', hsee⟩ :=
    h.runOn_cases hchoice (reportOnSource given limits) (reportWithout given limits)
  · rw [hrun, hrun']
    exact ⟨rfl, h.see⟩
  · rw [hrun, hrun']
    exact ⟨rfl, hsee⟩

theorem rollOn_same (h : Alike g s s')
    (hchoice : ∀ name, choice = .named name → (name == g) = true) (sides : Option Datum)
    (entropy : Int) :
    SameFor g (rollOn sides choice entropy s) (rollOn sides choice entropy s') := by
  rw [rollOn, rollOn]
  obtain ⟨fault, hfind, hfind'⟩ | ⟨found, found', hfind, hfind', hsource, hleave⟩ :=
    h.find_cases hchoice entropy
  · rw [hfind, hfind']
    exact ⟨rfl, h.see⟩
  · rw [hfind, hfind']
    cases sides with
    | none => exact ⟨rfl, h.see⟩
    | some sides =>
      simp only [required, bind, Except.bind]
      cases sides.items with
      | error fault => exact ⟨rfl, h.see⟩
      | ok sides =>
        simp only [pure, Except.pure, hsource]
        cases found'.source? with
        | none => exact ⟨rfl, h.see⟩
        | some source => exact ⟨rfl, hleave _⟩

end Alike

/-! ## Creating a name

A name may be given once more, to a new source or to the one that it has. Giving it to the source of
another name is left out, since then what is heard of it depends on what that name has been used
for. -/

namespace Operation

/-- Whether an operation does not create the source of a name from that of another. Otherwise what
is found under the name would depend on what had been done with the other one. -/
def createsAlone (g : Name) (operation : Operation) : Bool :=
  !operation.created?.any (· == g) || operation.used?.all (· == g)

/-- Whether an operation makes no source known both by a name and by another one. It is more than
`createsAlone`: the source of the name must not be given to others either. -/
def keepsApart (g : Name) (operation : Operation) : Bool :=
  match operation.created?, operation.used? with
  | some name, some other => (other == g) == (name == g)
  | _, _ => true

theorem used_of_touches {g : Name} {operation : Operation} (h : operation.touches g = true)
    (halone : operation.createsAlone g = true) : operation.used?.all (· == g) = true := by
  rcases Bool.or_eq_true_iff.mp halone with hcreated | hused
  · rw [Bool.not_eq_true'] at hcreated
    rw [touches, hcreated, Bool.or_false] at h
    cases hname : operation.used? with
    | none => rfl
    | some name => rwa [hname] at h
  · exact hused

theorem eq_of_keepsApart {g name other : Name} {operation : Operation}
    (h : operation.keepsApart g = true) (hname : operation.created? = some name)
    (hother : operation.used? = some other) : (other == g) = (name == g) := by
  rw [keepsApart, hname, hother] at h
  exact beq_iff_eq.mp h

end Operation

namespace Alike

variable {g : Name} {s s' : State}

/-- A name can be given to what is found, with the same result in both states. Whether the name is
the only one afterwards is the same in both, too, though it may be neither. -/
theorem introduce_cases (h : Alike g s s') {name : Name} {choice : SourceChoice} (entropy : Int)
    (hchoice : ∀ other, choice = .named other → (other == g) = true)
    (hname : (∀ other, choice ≠ .named other) → (g == name) = true) :
    (∃ fault, s.sources.introduce name choice entropy = .error fault ∧
      s'.sources.introduce name choice entropy = .error fault) ∨
    ∃ t t', s.sources.introduce name choice entropy = .ok t ∧
      s'.sources.introduce name choice entropy = .ok t' ∧ t.see g = t'.see g ∧
      (t.Unshared g ↔ t'.Unshared g) := by
  rw [Sources.introduce, Sources.introduce]
  obtain ⟨fault, hfind, hfind'⟩ | ⟨hfind, hfind'⟩ | ⟨source, hfind, hfind', hnone⟩ |
      ⟨i, i', source, hfind, hfind', hplace, hplace'⟩ :=
    Sources.find_cases h.see h.sound h.sound' hchoice entropy
  · rw [hfind, hfind']
    exact .inl ⟨fault, rfl, rfl⟩
  · rw [hfind, hfind']
    refine .inr ⟨_, _, rfl, rfl, ?_, iff_of_true (Sources.unshared_point_none h.unshared)
      (Sources.unshared_point_none h.unshared')⟩
    by_cases hg : (g == name) = true
    · rw [Sources.see_point_none hg, Sources.see_point_none hg]
    · rw [Sources.see_point_of_ne hg, Sources.see_point_of_ne hg, h.see]
  · rw [hfind, hfind']
    have hg := hname hnone
    refine .inr ⟨_, _, rfl, rfl, ?_,
      iff_of_true (Sources.unshared_add h.sound h.unshared name source)
        (Sources.unshared_add h.sound' h.unshared' name source)⟩
    rw [Sources.see_add hg, Sources.see_add hg]
  · rw [hfind, hfind']
    refine .inr ⟨_, _, rfl, rfl, ?_, (Sources.unshared_point_iff h.unshared hplace).trans
      (Sources.unshared_point_iff h.unshared' hplace').symm⟩
    rw [Sources.see_point_self hplace, Sources.see_point_self hplace', h.see]

theorem newSource_same (h : Alike g s s') (name : Option Datum) (choice : SourceChoice)
    (entropy : Int) (hchoice : ∀ other, choice = .named other → (other == g) = true)
    (htouch : (Operation.newSource name choice entropy).touches g = true) :
    SameFor g (performOperation s (.newSource name choice entropy))
      (performOperation s' (.newSource name choice entropy)) ∧
    ((s.after (.newSource name choice entropy)).sources.Unshared g ↔
      (s'.after (.newSource name choice entropy)).sources.Unshared g) := by
  have hsame : ∀ fault, SameFor g (answered s (.error fault)) (answered s' (.error fault)) :=
    fun _ => ⟨rfl, h.see⟩
  have hunshared : s.sources.Unshared g ↔ s'.sources.Unshared g :=
    iff_of_true h.unshared h.unshared'
  rw [State.after, State.after, performOperation, performOperation]
  simp only [bind, Except.bind]
  obtain ⟨fault, hfind, hfind'⟩ | ⟨found, found', hfind, hfind', -, -⟩ :=
    h.find_cases hchoice entropy
  · rw [hfind, hfind']
    exact ⟨hsame fault, hunshared⟩
  · rw [hfind, hfind']
    cases name with
    | none => exact ⟨hsame _, hunshared⟩
    | some given =>
      simp only [required]
      cases hof : Name.of? given with
      | error fault => exact ⟨hsame fault, hunshared⟩
      | ok name =>
        -- If no name is used, the one that the operation has is the one that it creates.
        have hname : (∀ other, choice ≠ .named other) → (g == name) = true := by
          intro hnone
          have hused : (Operation.newSource (some given) choice entropy).used? = none := by
            rw [Operation.used?, Operation.choice?]
            cases choice with
            | named other => exact absurd rfl (hnone other)
            | _ => rfl
          rw [Operation.touches, hused, Operation.created?, hof] at htouch
          exact BEq.symm htouch
        dsimp only
        obtain ⟨fault, hintroduce, hintroduce'⟩ | ⟨t, t', hintroduce, hintroduce', hsee, hiff⟩ :=
          h.introduce_cases entropy hchoice hname
        · rw [hintroduce, hintroduce']
          exact ⟨hsame fault, hunshared⟩
        · rw [hintroduce, hintroduce']
          exact ⟨⟨rfl, hsee⟩, hiff⟩

/-! ## Whole operations -/

variable {operation : Operation}

theorem other (h : Alike g s s') (hop : operation.touches g = false) :
    Alike g (s.after operation) s' := by
  obtain ⟨hused, hcreated⟩ := Bool.or_eq_false_iff.mp hop
  have hmoves := moves_after s operation
  exact
    { sound := hmoves.isSound h.sound
      sound' := h.sound'
      unshared := hmoves.unshared h.sound h.unshared fun hname hother =>
        (Sources.eq_false_of_any hused hother).trans (Sources.eq_false_of_any hcreated hname).symm
      unshared' := h.unshared'
      see := (hmoves.see_eq h.sound h.unshared hused hcreated).trans h.see }

/-- An operation with the name replies the same in states that are alike, and leaves them alike
unless the name is no longer the only one. -/
theorem touching (h : Alike g s s') (hop : operation.touches g = true)
    (halone : operation.createsAlone g = true) :
    SameFor g (performOperation s operation) (performOperation s' operation) ∧
    ((s.after operation).sources.Unshared g ↔ (s'.after operation).sources.Unshared g) := by
  have hused := Operation.used_of_touches hop halone
  have hchoice : ∀ choice, operation.choice? = some choice →
      ∀ name, choice = .named name → (name == g) = true := by
    rintro _ hchoice name rfl
    rwa [Operation.used?, hchoice] at hused
  -- Only a creation moves names, so in all other cases there is nothing to say about them.
  have hnames : operation.created? = none →
      ((s.after operation).sources.Unshared g ↔ (s'.after operation).sources.Unshared g) := by
    intro hcreated
    have hmoves := moves_after s operation
    have hmoves' := moves_after s' operation
    rw [hcreated] at hmoves hmoves'
    rw [Sources.Unshared, Sources.Unshared, hmoves.names_eq, hmoves'.names_eq]
    exact iff_of_true h.unshared h.unshared'
  cases operation with
  | evaluate figures how =>
    refine ⟨?_, hnames rfl⟩
    rw [performOperation, performOperation]
    cases figures.toDraft with
    | error fault => exact ⟨rfl, h.see⟩
    | ok d =>
      obtain ⟨throw, without, hthrow⟩ := exists_throwDraft_eq how d
      show SameFor g (throwDraft how d s) (throwDraft how d s')
      rw [hthrow]
      exact h.throwOn_same (hchoice _ rfl) throw without
  | throwText given limits how =>
    refine ⟨?_, hnames rfl⟩
    rw [performOperation, performOperation]
    obtain ⟨fault, hthrow⟩ | ⟨throw, without, hthrow⟩ := throwText_cases given limits how
    · rw [hthrow]
      exact ⟨rfl, h.see⟩
    · rw [hthrow]
      exact h.throwOn_same (hchoice _ rfl) throw without
  | report given limits how =>
    refine ⟨?_, hnames rfl⟩
    exact h.reportOnText_same (hchoice _ rfl) given limits
  | roll sides choice entropy =>
    refine ⟨?_, hnames rfl⟩
    exact h.rollOn_same (hchoice _ rfl) sides entropy
  | newSource name choice entropy =>
    exact h.newSource_same name choice entropy (hchoice _ rfl) hop
  | _ => cases hop

theorem after (h : Alike g s s') (hop : operation.touches g = true)
    (halone : operation.createsAlone g = true) (hs : (s'.after operation).sources.Unshared g) :
    Alike g (s.after operation) (s'.after operation) := by
  obtain ⟨hsame, hunshared⟩ := h.touching hop halone
  exact
    { sound := (moves_after s operation).isSound h.sound
      sound' := (moves_after s' operation).isSound h.sound'
      unshared := hunshared.mpr hs
      unshared' := hs
      see := hsame.see }

end Alike

/-! ## Sessions

A session is compared with the part of it that has the name. Two sessions with the same such part
are then compared by way of it, and never directly: their other operations need not correspond to
each other in any way. -/

/-- While operations are done, no other name leads to where a name leads. -/
def IsUnaliased (g : Name) : List Operation → State → Prop
  | [], s => s.sources.Unshared g
  | operation :: rest, s => s.sources.Unshared g ∧ IsUnaliased g rest (s.after operation)

theorem IsUnaliased.unshared {g : Name} {operations : List Operation} {s : State}
    (h : IsUnaliased g operations s) : s.sources.Unshared g := by
  cases operations with
  | nil => exact h
  | cons operation rest => exact h.1

/-- It is so if no operation makes one source known by this name and by another. This can be checked
on the operations alone, without going through the states. -/
theorem isUnaliased_of_forall {g : Name} {operations : List Operation} {s : State}
    (hs : s.sources.IsSound) (hg : s.sources.Unshared g)
    (h : ∀ operation ∈ operations, operation.keepsApart g = true) :
    IsUnaliased g operations s := by
  induction operations generalizing s with
  | nil => exact hg
  | cons operation rest ih =>
    have hmoves := moves_after s operation
    have hunshared := hmoves.unshared hs hg
      (Operation.eq_of_keepsApart (h operation List.mem_cons_self))
    exact ⟨hg, ih (hmoves.isSound hs) hunshared fun other hother =>
      h other (List.mem_cons_of_mem _ hother)⟩

/-- Of the replies to operations those to operations with a name, the counters left aside. -/
def heardIn (g : Name) (operations : List Operation) (replies : List Reply) : List Reply :=
  ((operations.zip replies).filter fun e => e.1.touches g).map fun e => e.2.withoutCounters

theorem heardIn_cons (g : Name) (operation : Operation) (rest : List Operation) (reply : Reply)
    (replies : List Reply) : heardIn g (operation :: rest) (reply :: replies) =
      if operation.touches g = true then reply.withoutCounters :: heardIn g rest replies
      else heardIn g rest replies := by
  rw [heardIn, List.zip_cons_cons, List.filter_cons]
  split <;> rfl

/-- What is heard of a name in a session, taken from the reply to the session as it is given, with
all its nesting, and not from replies to single operations. -/
def heard (g : Name) (steps : List Request) : List Reply :=
  heardIn g (operationsOf steps) (perform (.session steps) {}).reply.leaves

variable {g : Name} {s s' : State}

/-- What is heard of a name, and whether it remains the only one, is the same if all operations
without it are left out.

By the list of operations. One without the name changes only the first of the two states, and one
with it both; either way they stay alike. -/
theorem Alike.run {operations : List Operation} (h : Alike g s s')
    (halone : ∀ operation ∈ operations, operation.createsAlone g = true) :
    (IsUnaliased g operations s ↔ IsUnaliased g (operations.filter (·.touches g)) s') ∧
    (IsUnaliased g (operations.filter (·.touches g)) s' →
      heardIn g operations (repliesTo operations s) =
        (repliesTo (operations.filter (·.touches g)) s').map Reply.withoutCounters) := by
  induction operations generalizing s s' with
  | nil => exact ⟨iff_of_true h.unshared h.unshared', fun _ => rfl⟩
  | cons operation rest ih =>
    have halone' := fun other hother => halone other (List.mem_cons_of_mem operation hother)
    cases hop : operation.touches g with
    | false =>
      obtain ⟨hiff, hheard⟩ := ih (h.other hop) halone'
      rw [List.filter_cons_of_neg (Bool.eq_false_iff.mp hop)]
      refine ⟨⟨fun halong => hiff.mp halong.2, fun halong => ⟨h.unshared, hiff.mpr halong⟩⟩, ?_⟩
      intro halong
      rw [repliesTo, heardIn_cons, if_neg (Bool.eq_false_iff.mp hop)]
      exact hheard halong
    | true =>
      obtain ⟨hsame, hunshared⟩ := h.touching hop (halone operation List.mem_cons_self)
      rw [List.filter_cons_of_pos hop]
      have hnext := fun hs : (s'.after operation).sources.Unshared g =>
        ih (h.after hop (halone operation List.mem_cons_self) hs) halone'
      -- Whether the states stay alike depends on the operation, so that is said of each side anew.
      refine ⟨⟨fun halong => ?_, fun halong => ?_⟩, fun halong => ?_⟩
      · have hs := hunshared.mp halong.2.unshared
        exact ⟨h.unshared', (hnext hs).1.mp halong.2⟩
      · exact ⟨h.unshared, (hnext halong.2.unshared).1.mpr halong.2⟩
      · have hrest := (hnext halong.2.unshared).2 halong.2
        rw [repliesTo, repliesTo, heardIn_cons, if_pos hop, List.map_cons, hsame.reply, hrest]

theorem alike_empty (g : Name) : Alike g {} {} where
  sound := nofun
  sound' := nofun
  unshared := nofun
  unshared' := nofun
  see := rfl

theorem heard_eq {steps : List Request} (h : areWhole steps = true) :
    heard g steps = heardIn g (operationsOf steps) (repliesTo (operationsOf steps) {}) := by
  rw [heard, (perform_eq_operations (.session steps) {} h).1]
  rfl

/-- Two sessions in which the same operations use or create a name, in the same order, get the same
replies to them, the counters aside, whatever else is done between these operations.

The name may be created again, but not from another one, and as long as one of the sessions goes on
no other name may lead to the same generator. -/
theorem generator_isolated {steps steps' : List Request} (hwhole : areWhole steps = true)
    (hwhole' : areWhole steps' = true)
    (hsame : (operationsOf steps).filter (·.touches g) = (operationsOf steps').filter (·.touches g))
    (halone : ∀ operation ∈ operationsOf steps, operation.createsAlone g = true)
    (hunaliased : IsUnaliased g (operationsOf steps) {}) :
    heard g steps = heard g steps' := by
  have halone' : ∀ operation ∈ operationsOf steps', operation.createsAlone g = true := by
    intro operation hmem
    by_cases htouches : operation.touches g = true
    · have hmem' : operation ∈ (operationsOf steps).filter (·.touches g) :=
        hsame ▸ List.mem_filter.mpr ⟨hmem, htouches⟩
      exact halone operation (List.mem_filter.mp hmem').1
    · -- It does not even create the source.
      obtain ⟨-, hcreated⟩ := Bool.or_eq_false_iff.mp (Bool.eq_false_iff.mpr htouches)
      rw [Operation.createsAlone, hcreated]
      rfl
  obtain ⟨hiff, hheard⟩ := (alike_empty g).run halone
  obtain ⟨-, hheard'⟩ := (alike_empty g).run halone'
  have hkept := hiff.mp hunaliased
  rw [heard_eq hwhole, heard_eq hwhole', hheard hkept, hheard' (hsame ▸ hkept), hsame]

/-- A generator is used twice, and in between another one is made and used, the books are emptied
and something is refused. -/
theorem generator_isolated_beside_another :
    let mine : Name := .text "mine"
    let new (name : String) (draws : List Nat) : Request :=
      .single (.newSource (some (.text name)) (.scripted (draws.map fun k => .ok (.fraction k))) 0)
    let roll (name : String) : Request :=
      .single (.roll (some (.list [.int 6])) (.named (.text name)) 0)
    let steps := [new "mine" [0, 2 ^ 52], roll "mine", new "other" [7], .single .reset,
      roll "other", .single (.refused .noBounds), roll "mine"]
    let steps' := [new "mine" [0, 2 ^ 52], roll "mine", roll "mine"]
    heard mine steps = heard mine steps' ∧ (heard mine steps').length = 3 := by
  intro mine new roll steps steps'
  have hsame : (operationsOf steps).filter (·.touches mine) =
      (operationsOf steps').filter (·.touches mine) := rfl
  have halone : ∀ operation ∈ operationsOf steps, operation.createsAlone mine = true :=
    List.all_eq_true.mp rfl
  have hunaliased : IsUnaliased mine (operationsOf steps) {} :=
    isUnaliased_of_forall nofun nofun (List.all_eq_true.mp rfl)
  exact ⟨generator_isolated rfl rfl hsame halone hunaliased, by decide +kernel⟩

end Dicebox.Session
