import Mathlib.Data.List.Basic
import Dicebox.Command.Registry

/-!
# The registry and its history

The registry is written again and again, asked, loaded once more, and mappings that it has given out
are changed by others. What it says depends on the registrations alone:

> **a name means the last command that was registered under it, and the names are listed in the
> order in which they first came** (`registry_follows_registrations`).

The two halves of this are decided by different registrations of one name, the last and the first,
so a history is not summed up by a set of commands. It is summed up by the list of the commands
that were registered, the built-in ones first (`registered`), and `Reflects` says what the registry
is to make of such a list.

All steps but a registration are silent, which is `registry_perform`. It rests on two things that
every step preserves (`IsSound`): nobody else has the address of the registry's own mapping, so what
others change is never that one; and all modules have been imported, so loading runs none of them.
Were one run again, its command would take the place of what has replaced it.

Names are the same as far as `==` can tell, so of a list of names without repetitions not more is
said than that no two are the same. It is the one of `List.eraseDups`, which keeps the first.
-/

set_option autoImplicit false

namespace Dicebox

/-! ## Lists without repetitions

`List.eraseDups` goes on with a filtered list and not with the tail, so the inductions here are on
the length. What a filter takes away is the same as the element that it was made for, and therefore
not what is looked for otherwise (`any_filter_of_ne`). -/

section

variable {α : Type} [BEq α] [EquivBEq α]

theorem any_filter_of_ne {a b : α} (h : (b == a) = false) (l : List α) :
    (l.filter fun c => !c == b).any (· == a) = l.any (· == a) := by
  rw [List.any_filter]
  refine congrArg (l.any ·) (funext fun c => ?_)
  cases hc : c == a with
  | false => rw [Bool.and_false]
  | true => rw [Bool.and_true, BEq.congr_left hc, BEq.comm, h, Bool.not_false]

theorem any_eraseDups (a : α) : ∀ l : List α, l.eraseDups.any (· == a) = l.any (· == a)
  | [] => rfl
  | b :: l => by
    have hlength : (l.filter fun c => !c == b).length < l.length + 1 :=
      Nat.lt_succ_of_le (List.length_filter_le _ _)
    rw [List.eraseDups_cons, List.any_cons, any_eraseDups, List.any_cons]
    cases hb : b == a with
    | true => rfl
    | false => rw [any_filter_of_ne hb]
termination_by l => l.length

theorem eraseDups_concat (a : α) : ∀ l : List α, (l ++ [a]).eraseDups =
    if l.any (· == a) = true then l.eraseDups else l.eraseDups ++ [a]
  | [] => rfl
  | b :: l => by
    have hlength : (l.filter fun c => !c == b).length < l.length + 1 :=
      Nat.lt_succ_of_le (List.length_filter_le _ _)
    have hlast : [a].filter (fun c => !c == b) = if (b == a) = true then [] else [a] := by
      rw [List.filter_cons, List.filter_nil, BEq.comm]
      cases b == a <;> rfl
    rw [List.cons_append, List.eraseDups_cons, List.filter_append, hlast, List.any_cons,
      List.eraseDups_cons]
    cases hb : b == a with
    | true =>
      rw [if_pos rfl, List.append_nil, Bool.true_or, if_pos rfl]
    | false =>
      rw [if_neg Bool.false_ne_true, eraseDups_concat, any_filter_of_ne hb, Bool.false_or]
      split
      · rfl
      · rfl
termination_by l => l.length

theorem countP_eq_one {a : α} {l : List α} (hl : l.Pairwise fun b c => (b == c) = false)
    (ha : l.any (· == a) = true) : l.countP (· == a) = 1 := by
  induction l with
  | nil => exact absurd ha Bool.false_ne_true
  | cons b l ih =>
    obtain ⟨hb, hrest⟩ := List.pairwise_cons.mp hl
    rw [List.any_cons] at ha
    cases hba : b == a with
    | true =>
      -- The head is counted, and none of the others is the same as the head.
      have hnone : l.countP (· == a) = 0 := by
        refine List.countP_eq_zero.mpr fun c hc hca => ?_
        exact Bool.eq_false_iff.mp (hb c hc) (BEq.trans hba (BEq.symm hca))
      rw [List.countP_cons, hnone, hba]
      rfl
    | false =>
      rw [hba, Bool.false_or] at ha
      rw [List.countP_cons, ih hrest ha, hba]
      rfl

end

/-! ## What a history says -/

namespace Registry

/-- The command that a step registers. -/
def Step.registered? : Step → Option Command
  | .enter command => some command
  | .find _ | .all | .load | .changeCopy .. | .clearCopy => none

/-- The commands that are registered by a history, the built-in ones first. -/
def registered (history : List Step) : List Command :=
  CommandModule.all.map CommandModule.command ++ history.filterMap Step.registered?

/-- The last of some commands with a name. Registering a command takes the place of any other with
its name, so of all that were registered only this one can be found. -/
def lastOf? (name : Name) (commands : List Command) : Option Command :=
  commands.reverse.find? fun c => name == c.name

/-- The names of some commands, in the order in which they first came. -/
def namesOf (commands : List Command) : List Name := (commands.map Command.name).eraseDups

/-- What a step is answered when these commands have been registered. -/
def answerFrom (commands : List Command) : Step → Answer
  | .find name => .found ((lastOf? name commands).map listing)
  | .all => .listed ((namesOf commands).filterMap fun name => (lastOf? name commands).map listing)
  | .clearCopy => .size (namesOf commands).length
  | .enter _ | .load | .changeCopy .. => .done

theorem lastOf?_append (name : Name) (commands more : List Command) :
    lastOf? name (commands ++ more) = (lastOf? name more).or (lastOf? name commands) := by
  rw [lastOf?, List.reverse_append, List.find?_append]
  rfl

theorem lastOf?_singleton (name : Name) (c : Command) :
    lastOf? name [c] = if (name == c.name) = true then some c else none := by
  rw [lastOf?, List.reverse_singleton, List.find?_cons]
  cases name == c.name <;> rfl

theorem lastOf?_eq_none_iff {name : Name} {commands : List Command} :
    lastOf? name commands = none ↔ ∀ c ∈ commands, (name == c.name) = false := by
  rw [lastOf?, List.find?_eq_none]
  exact ⟨fun h c hc => Bool.eq_false_iff.mpr (h c (List.mem_reverse.mpr hc)),
    fun h c hc => Bool.eq_false_iff.mp (h c (List.mem_reverse.mp hc))⟩

theorem any_namesOf (name : Name) (commands : List Command) :
    (namesOf commands).any (· == name) = commands.any (·.name == name) := by
  rw [namesOf, any_eraseDups, List.any_map]
  rfl

theorem registered_append (history more : List Step) :
    registered (history ++ more) = registered history ++ more.filterMap Step.registered? := by
  rw [registered, List.filterMap_append, ← List.append_assoc]
  rfl

/-! ## The registry reflects it

The mapping of a registry answers with the last command and lists by the first, and each of these is
its own equation in `Reflects`. Together they determine all that is listed. -/

/-- What a registry is after some commands have been registered, in this order. -/
structure Reflects (r : Registry) (commands : List Command) : Prop where
  find? (name : Name) : r.find? name = lastOf? name commands
  keys : r.commands.keys = namesOf commands

namespace Reflects

variable {r : Registry} {commands : List Command}

/-- What is listed is the last command of each name, in the order of the names. -/
theorem map_all (h : r.Reflects commands) :
    r.all.map some = (namesOf commands).map (lastOf? · commands) := by
  rw [all, ← r.commands.map_find?_keys, h.keys]
  exact List.map_congr_left fun name _ => h.find? name

theorem length_all (h : r.Reflects commands) : r.all.length = (namesOf commands).length := by
  rw [← List.length_map some, h.map_all, List.length_map]

/-- The step of the induction. A command under a name that was there before changes the meaning of
the name and leaves the order of names as it is; one under a new name adds it at the end. -/
theorem register (h : r.Reflects commands) (c : Command) :
    (r.register c).Reflects (commands ++ [c]) where
  find? name := by
    have hinsert := r.commands.find?_insert c.name name c
    rw [lastOf?_append, lastOf?_singleton, ← h.find? name, Registry.find?, Registry.register,
      hinsert]
    split
    · rfl
    · rfl
  keys := by
    have hinsert := r.commands.keys_insert c.name c
    have hcontains : r.commands.contains c.name = commands.any (·.name == c.name) := by
      rw [← any_namesOf, ← h.keys, OrderedMap.keys, List.any_map]
      rfl
    -- Whether the name is new is the same question to the mapping as to the list of commands.
    rw [hcontains, h.keys] at hinsert
    rw [namesOf, List.map_append, List.map_singleton, eraseDups_concat, List.any_map]
    exact hinsert

end Reflects

theorem reflects_builtIn : builtIn.Reflects (registered []) := by
  have hempty : ({} : Registry).Reflects [] := ⟨fun _ => rfl, rfl⟩
  have h := (hempty.register .randomness).register .roll
  exact ⟨h.find?, h.keys⟩

/-! ## Importing and loading

A module is run when it is imported for the first time, and then it registers its command. It may
have been replaced since, so that loading changes nothing is true only of a registry that has
imported everything, and this is what `IsSound` keeps. -/

theorem importModule_eq_self {r : Registry} {m : CommandModule} (h : m ∈ r.imported) :
    r.importModule m = r := if_pos h

theorem load_eq_self {r : Registry} (h : ∀ m, m ∈ r.imported) : r.load = r :=
  List.foldl_fixed' (fun m => importModule_eq_self (h m)) _

theorem mem_imported_importModule {r : Registry} {m other : CommandModule}
    (h : other ∈ r.imported ∨ other = m) : other ∈ (r.importModule m).imported := by
  rw [importModule]
  split
  case isTrue hm => exact h.elim id fun heq => heq ▸ hm
  case isFalse => exact List.mem_append.mpr (h.imp_right List.mem_singleton.mpr)

theorem mem_imported_load (r : Registry) (m : CommandModule) : m ∈ r.load.imported := by
  cases m with
  | randomness => exact mem_imported_importModule (.inl (mem_imported_importModule (.inr rfl)))
  | roll => exact mem_imported_importModule (.inr rfl)

/-! ## What a step does to the registry -/

namespace InUse

/-- A registry has a mapping of its own, of which nobody else has the address, and all modules have
been imported. -/
structure IsSound (u : InUse) : Prop where
  owned : own < u.memory.length
  own_not_given : own ∉ u.given
  imported (m : CommandModule) : m ∈ u.imported

variable {u : InUse}

theorem isSound_start : start.IsSound where
  owned := Nat.one_pos
  own_not_given := List.not_mem_nil
  imported := mem_imported_load _

namespace IsSound

theorem load_eq_self (h : u.IsSound) : u.registry.load = u.registry :=
  Registry.load_eq_self h.imported

theorem registry_update (h : u.IsSound) (r : Registry) : (u.update r).registry = r := by
  rw [registry, update, List.getD_eq_getElem?_getD, List.getElem?_set_self h.owned]
  rfl

theorem update (h : u.IsSound) {r : Registry} (hr : ∀ m, m ∈ r.imported) :
    (u.update r).IsSound where
  owned := by
    rw [InUse.update, List.length_set]
    exact h.owned
  own_not_given := h.own_not_given
  imported := hr

theorem registry_giveOut (h : u.IsSound) : u.giveOut.registry = u.registry := by
  rw [registry, giveOut, List.getD_eq_getElem?_getD, List.getElem?_append_left h.owned,
    ← List.getD_eq_getElem?_getD]
  rfl

theorem giveOut (h : u.IsSound) : u.giveOut.IsSound where
  owned := by
    rw [InUse.giveOut, List.length_append]
    exact Nat.lt_add_right _ h.owned
  own_not_given := by
    -- The address is that of the end of the memory.
    have hfresh : own ≠ u.memory.length := Nat.ne_of_lt h.owned
    rw [InUse.giveOut, List.mem_append, List.mem_singleton]
    exact not_or.mpr ⟨h.own_not_given, hfresh⟩
  imported := h.imported

theorem registry_change (h : u.IsSound) (index : Nat) (f : Mapping → Mapping) :
    (u.change index f).registry = u.registry := by
  rw [change]
  split
  case h_1 address hgiven =>
    have hne : address ≠ own := fun heq => h.own_not_given (heq ▸ List.mem_of_getElem? hgiven)
    rw [registry, List.getD_eq_getElem?_getD, List.getElem?_modify_ne _ _ hne,
      ← List.getD_eq_getElem?_getD]
    rfl
  case h_2 => rfl

theorem change (h : u.IsSound) (index : Nat) (f : Mapping → Mapping) :
    (u.change index f).IsSound := by
  rw [InUse.change]
  split
  case h_1 =>
    refine ⟨?_, h.own_not_given, h.imported⟩
    rw [List.length_modify]
    exact h.owned
  case h_2 => exact h

/-- Of all steps only a registration does something to the registry. A mapping that is given out is
a copy at a new address, and what others change is at such an address and not at the registry's own
one. -/
theorem registry_perform (h : u.IsSound) (step : Step) : (perform u step).2.registry =
    step.registered?.elim u.registry u.registry.register := by
  cases step with
  | enter command => exact h.registry_update _
  | find name => rfl
  | all => exact h.registry_giveOut
  | load => exact (h.registry_update _).trans h.load_eq_self
  | changeCopy index f => exact h.registry_change index f
  | clearCopy =>
    have hcleared := h.giveOut.change u.given.length fun _ => .empty
    exact hcleared.registry_giveOut.trans
      ((h.giveOut.registry_change _ _).trans h.registry_giveOut)

theorem perform (h : u.IsSound) (step : Step) : (perform u step).2.IsSound := by
  cases step with
  | enter command => exact h.update h.imported
  | find name => exact h
  | all => exact h.giveOut
  | load => exact h.update (mem_imported_load _)
  | changeCopy index f => exact h.change index f
  | clearCopy => exact (h.giveOut.change _ _).giveOut

end IsSound

/-! ## Following a history

A history is followed from its beginning, so its steps are added at the end, and what it says grows
at the end as well. -/

/-- A registry in use after a history. -/
structure Follows (u : InUse) (history : List Step) : Prop extends u.IsSound where
  reflects : u.registry.Reflects (registered history)

theorem follows_start : start.Follows [] := ⟨isSound_start, reflects_builtIn⟩

namespace Follows

variable {history : List Step}

theorem perform (h : u.Follows history) (step : Step) :
    (perform u step).2.Follows (history ++ [step]) where
  toIsSound := h.toIsSound.perform step
  reflects := by
    rw [h.registry_perform, registered_append, List.filterMap_cons, List.filterMap_nil]
    cases step.registered? with
    | none => exact (List.append_nil _).symm ▸ h.reflects
    | some c => exact h.reflects.register c

theorem answer (h : u.Follows history) (step : Step) :
    (Registry.perform u step).1 = answerFrom (registered history) step := by
  cases step with
  | enter | load | changeCopy => rfl
  | find name =>
    exact congrArg (fun found => Answer.found (found.map listing)) (h.reflects.find? name)
  | all =>
    refine congrArg Answer.listed ?_
    have hlisted := congrArg (List.filterMap (Option.map listing)) h.reflects.map_all
    rw [List.filterMap_map, List.filterMap_map] at hlisted
    rw [← List.filterMap_eq_map]
    exact hlisted
  | clearCopy =>
    -- The number is taken after the mapping has been emptied.
    refine congrArg Answer.size ?_
    rw [h.giveOut.registry_change, h.registry_giveOut, h.reflects.length_all]

end Follows

end InUse

open InUse

/-! ## Histories -/

theorem performAll_cons (step : Step) (later : List Step) (u : InUse) :
    performAll (step :: later) u =
      ((perform u step).1 :: (performAll later (perform u step).2).1,
        (performAll later (perform u step).2).2) := rfl

theorem length_performAll (history : List Step) (u : InUse) :
    (performAll history u).1.length = history.length := by
  induction history generalizing u with
  | nil => rfl
  | cons step later ih => exact congrArg Nat.succ (ih _)

theorem performAll_append (before later : List Step) (u : InUse) :
    performAll (before ++ later) u =
      ((performAll before u).1 ++ (performAll later (performAll before u).2).1,
        (performAll later (performAll before u).2).2) := by
  induction before generalizing u with
  | nil => rfl
  | cons step before ih =>
    rw [List.cons_append, performAll_cons, performAll_cons, ih]
    rfl

theorem follows_performAll {u : InUse} {history : List Step} (h : u.Follows history)
    (later : List Step) : (performAll later u).2.Follows (history ++ later) := by
  induction later generalizing u history with
  | nil => exact (List.append_nil history).symm ▸ h
  | cons step later ih =>
    have hlater := ih (h.perform step)
    rw [List.append_assoc] at hlater
    exact hlater

/-- The registry after a history. -/
def after (history : List Step) : Registry := (performAll history .start).2.registry

/-- The answers that are given in the course of a history. -/
def answers (history : List Step) : List Answer := (performAll history .start).1

theorem follows_after (history : List Step) :
    (performAll history .start).2.Follows history := follows_performAll follows_start history

theorem answers_at (before : List Step) (step : Step) (later : List Step) :
    (answers (before ++ step :: later))[before.length]? =
      some (answerFrom (registered before) step) := by
  have hlength := length_performAll before start
  rw [answers, performAll_append, List.getElem?_append_right (Nat.le_of_eq hlength), hlength,
    Nat.sub_self, performAll_cons]
  exact congrArg some ((follows_after before).answer step)

theorem after_concat (history : List Step) (step : Step) :
    after (history ++ [step]) = step.registered?.elim (after history) (after history).register := by
  rw [after, performAll_append]
  exact (follows_after history).registry_perform step

/-! ## Other names

Two histories that differ in one registration are followed side by side, with mappings that differ
under one name. Their entries under all other names are the same, in the same order. -/

/-- The entries of all names but one. -/
def others (r : Registry) (name : Name) : List (Name × Command) :=
  r.commands.entries.filter fun e => !(e.1 == name)

theorem others_register_self (r : Registry) (c : Command) :
    (r.register c).others c.name = r.others c.name := by
  rw [others, register, OrderedMap.filter_insert, if_pos BEq.rfl]
  rfl

theorem others_register_congr {r s : Registry} {name : Name} (h : r.others name = s.others name)
    (c : Command) : (r.register c).others name = (s.register c).others name := by
  rw [others, others] at h
  rw [others, others, register, register, OrderedMap.filter_insert, OrderedMap.filter_insert, h]

theorem others_performAll {u v : InUse} {name : Name} (hu : u.IsSound) (hv : v.IsSound)
    (h : u.registry.others name = v.registry.others name) (later : List Step) :
    (performAll later u).2.registry.others name =
      (performAll later v).2.registry.others name := by
  -- What the steps are answered is left out: the two registries may differ in it.
  induction later generalizing u v with
  | nil => exact h
  | cons step later ih =>
    rw [performAll_cons, performAll_cons]
    refine ih (hu.perform step) (hv.perform step) ?_
    rw [hu.registry_perform, hv.registry_perform]
    cases step.registered? with
    | none => exact h
    | some c => exact others_register_congr h c

theorem others_after (before : List Step) (c : Command) (later : List Step) :
    (after (before ++ .enter c :: later)).others c.name =
      (after (before ++ later)).others c.name := by
  have hbefore := follows_after before
  have hentered := hbefore.registry_perform (.enter c)
  rw [after, after, performAll_append, performAll_append, performAll_cons]
  refine others_performAll (hbefore.toIsSound.perform _) hbefore.toIsSound ?_ later
  rw [hentered]
  exact others_register_self _ c

theorem find?_after_of_ne (before : List Step) (c : Command) (later : List Step) {name : Name}
    (hname : (name == c.name) = false) :
    (after (before ++ .enter c :: later)).find? name = (after (before ++ later)).find? name := by
  have hlast : lastOf? name [c] = none := by
    rw [lastOf?_singleton, hname]
    rfl
  have hregistered : (Step.enter c :: later).filterMap Step.registered? =
      [c] ++ later.filterMap Step.registered? := rfl
  rw [after, after, (follows_after _).reflects.find?, (follows_after _).reflects.find?,
    registered_append, registered_append, hregistered, lastOf?_append, lastOf?_append,
    lastOf?_append, hlast, Option.or_none]

/-! ## What the registry says -/

/-- After any history of registrations, questions, loading and changes to what was given out, a name
means the last command registered under it, if there is one, and each name is listed once, in the
order of first registration. Every question was answered from the registrations before it. Only a
registration changes the registry, loading does not, and what is said about other names is the same
without it. -/
theorem registry_follows_registrations (history : List Step) :
    (∀ name, (after history).find? name = lastOf? name (registered history) ∧
      ((after history).find? name = none ↔
        ∀ c ∈ registered history, (name == c.name) = false)) ∧
    ((after history).commands.keys = namesOf (registered history) ∧
      (∀ c ∈ registered history, (after history).commands.keys.countP (· == c.name) = 1) ∧
      (after history).all.map some =
        (namesOf (registered history)).map (lastOf? · (registered history))) ∧
    (∀ before step later, history = before ++ step :: later →
      (answers history)[before.length]? = some (answerFrom (registered before) step)) ∧
    (∀ step, step.registered? = none → after (history ++ [step]) = after history) ∧
    (after history).load = after history ∧
    ∀ before c later, history = before ++ .enter c :: later →
      (∀ name, (name == c.name) = false →
        (after history).find? name = (after (before ++ later)).find? name) ∧
      (after history).others c.name = (after (before ++ later)).others c.name := by
  have h := follows_after history
  refine ⟨fun name => ⟨h.reflects.find? name, ?_⟩,
    ⟨h.reflects.keys, fun c hc => ?_, h.reflects.map_all⟩, ?_, fun step hstep => ?_,
    h.load_eq_self, ?_⟩
  · rw [after, h.reflects.find?, lastOf?_eq_none_iff]
  · refine countP_eq_one (OrderedMap.keys_distinct _) ?_
    rw [after, h.reflects.keys, any_namesOf]
    exact List.any_eq_true.mpr ⟨c, hc, BEq.rfl⟩
  · rintro before step later rfl
    exact answers_at before step later
  · rw [after_concat, hstep]
    rfl
  · rintro before c later rfl
    exact ⟨fun name => find?_after_of_ne before c later, others_after before c later⟩

/-- A new command under the name of a built-in one is still there after its predecessor has been
loaded again and a mapping with all commands has been emptied. -/
theorem registry_follows_registrations_replaced :
    let history : List Step :=
      [.register "roll" (.text "another one"), .clearCopy, .load, .find "roll"]
    ((after history).find? "roll").map Command.description = some (.text "another one") ∧
    (after history).find? "sing" = none ∧
    (after history).commands.keys = ["randomness", "roll"] ∧
    (answers history)[3]? = some (answerFrom (registered history) (.find "roll")) ∧
    (after history).load = after history ∧
    (after history).others "roll" = (after [.clearCopy, .load, .find "roll"]).others "roll" := by
  intro history
  obtain ⟨hfind, ⟨hkeys, -, -⟩, hanswers, -, hload, hothers⟩ :=
    registry_follows_registrations history
  refine ⟨?_, ?_, ?_, ?_, hload, (hothers [] _ _ rfl).2⟩
  · rw [(hfind "roll").1]
    rfl
  · refine (hfind "sing").2.mpr ?_
    decide
  · rw [hkeys]
    rfl
  · exact hanswers [_, _, _] (.find "roll") [] rfl

end Registry

end Dicebox
