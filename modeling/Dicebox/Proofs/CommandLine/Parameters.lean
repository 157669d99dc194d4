import Dicebox.Proofs.CommandLine.Sorting
import Mathlib.Data.List.Nodup

/-!
# Options are reached by their parameters

An option is declared by name and arrives by name. On its way it is a parameter: it is spelled with
two dashes in front and dashes for underscores, and the name under which its value arrives is made
of that spelling again. A name in which something else was changed on the way, or two names of one
spelling, would lose a value without a word. So

> **an identifier in lower case comes back from its spelling** (`nameOf_spellingOf`), **and whatever
> is spelled out for an option is what the table has under its name** (`parameters_lead_back`).

No identifier holds a dash, a slash or an equals sign, which is all that the spelling relies on.

The type of a parameter is found by walking through the members of a union, and of unions within it.
`ValueType.Resolves` says what is found there, without the walk: a union is taken for any of its
members that only null stands before.
-/

set_option autoImplicit false

namespace Dicebox

/-! ## Types

`ValueType.kind` calls itself on the members of a union, and on the members of a list of them; what
is proved of it is proved of both at once (`resolves_kind`, `resolves_firstKind`). The relation has
no such list in it, and that is what makes it fit for a statement. -/

namespace ValueType

/-- Which type a value on the command line has. A truth value, null and values of any other type are
texts. -/
inductive Resolves : ValueType → ParameterKind → Prop
  | text : Resolves .text .text
  | integer : Resolves .integer .integer
  | real : Resolves .real .real
  | boolean : Resolves .boolean .text
  | nothing : Resolves .nothing .text
  | other : Resolves .other .text
  /-- A union is its first member that is not null. -/
  | union {before : List ValueType} {t : ValueType} {after : List ValueType} {k : ParameterKind}
    (hbefore : ∀ m ∈ before, m = .nothing) (ht : t ≠ .nothing) (hk : Resolves t k) :
    Resolves (.union (before ++ t :: after)) k
  | unionOfNothing {members : List ValueType} (hmembers : ∀ m ∈ members, m = .nothing) :
    Resolves (.union members) .text

theorem firstKind_cons {t : ValueType} (ht : t ≠ .nothing) (rest : List ValueType) :
    firstKind (t :: rest) = t.kind := by
  cases t with
  | nothing => exact absurd rfl ht
  | text | integer | real | boolean | other | union => rfl

theorem firstKind_append {before : List ValueType} (hbefore : ∀ m ∈ before, m = .nothing)
    (rest : List ValueType) : firstKind (before ++ rest) = firstKind rest := by
  induction before with
  | nil => rfl
  | cons m before ih =>
    obtain rfl := hbefore m List.mem_cons_self
    exact ih fun m' hm' => hbefore m' (List.mem_cons_of_mem _ hm')

theorem Resolves.cons_nothing {members : List ValueType} {k : ParameterKind}
    (h : (ValueType.union members).Resolves k) :
    (ValueType.union (.nothing :: members)).Resolves k := by
  cases h with
  | @union before t after _ hbefore ht hk =>
    exact @Resolves.union (.nothing :: before) t after k (by simpa using hbefore) ht hk
  | unionOfNothing hmembers => exact .unionOfNothing (by simpa using hmembers)

mutual

theorem resolves_kind : ∀ t : ValueType, t.Resolves t.kind
  | .text => .text
  | .integer => .integer
  | .real => .real
  | .boolean => .boolean
  | .nothing => .nothing
  | .other => .other
  | .union members => resolves_firstKind members

theorem resolves_firstKind : ∀ members : List ValueType,
    (ValueType.union members).Resolves (firstKind members)
  | [] => .unionOfNothing fun m hm => by cases hm
  | t :: rest => by
    by_cases ht : t = .nothing
    · rw [ht]
      exact (resolves_firstKind rest).cons_nothing
    · rw [firstKind_cons ht]
      exact @Resolves.union [] t rest _ (fun m hm => by cases hm) ht (resolves_kind t)

end

theorem Resolves.kind_eq {t : ValueType} {k : ParameterKind} (h : t.Resolves k) : t.kind = k := by
  induction h with
  | text | integer | real | boolean | nothing | other => rfl
  | union hbefore ht _ ih => rw [kind, firstKind_append hbefore, firstKind_cons ht, ih]
  | @unionOfNothing members hmembers =>
    have hskip := firstKind_append hmembers []
    rw [List.append_nil] at hskip
    rw [kind, hskip, firstKind]

/-- There is one type, and it is the one that is found. So the relation is a function, though its
two rules for unions do not say so: a union has one first member that is not null, or none. -/
theorem resolves_iff {t : ValueType} {k : ParameterKind} : t.Resolves k ↔ t.kind = k := by
  constructor
  · exact Resolves.kind_eq
  · rintro rfl
    exact resolves_kind t

theorem isBoolean_eq_true_iff {t : ValueType} : t.isBoolean = true ↔ t = .boolean := by
  cases t <;> simp [isBoolean]

end ValueType

/-! ## Names

An identifier may have letters of any script in it, and no list of these is looked through here. It
is enough that three marks are not among them, which is checked in the tables of what they are. -/

namespace Text

/-- The characters that mean something in a spelling. -/
def marks : List Char := ['-', '/', '=']

theorem marks_excluded :
    marks.all fun c => !identifierStart.contains c && !identifierMore.contains c := by
  decide +kernel

theorem mark_not_mem {s : String} (h : isIdentifier s = true) {c : Char} (hc : c ∈ marks) :
    c ∉ s.toList := by
  have hexcluded := List.all_eq_true.mp marks_excluded c hc
  rw [Bool.and_eq_true, Bool.not_eq_true', Bool.not_eq_true'] at hexcluded
  exact not_mem_of_isIdentifier h hexcluded.1 hexcluded.2

end Text

namespace Parameter

open CommandLine (IsSpelling looksLikeOption)

theorem toList_spellingOf (name : String) : (spellingOf name).toList =
    '-' :: '-' :: name.toList.map fun c => if c = '_' then '-' else c :=
  String.toList_ofList

theorem mem_of_mem_spellingOf {name : String} {c : Char} (hc : c ≠ '-')
    (h : c ∈ (spellingOf name).toList) : c ∈ name.toList := by
  rw [toList_spellingOf] at h
  simp only [List.mem_cons, hc, false_or, List.mem_map] at h
  obtain ⟨c', hc', rfl⟩ := h
  by_cases hunderscore : c' = '_'
  · exact absurd (if_pos hunderscore) hc
  · rwa [if_neg hunderscore]

/-- A name without dashes comes back from its spelling, in lower case. A dash in it would come back
as an underscore, for on the way there underscores become dashes, and on the way back all dashes
become underscores. -/
theorem nameOf_spellingOf {name : String} (h : '-' ∉ name.toList) :
    nameOf (spellingOf name) = Text.lower name := by
  have hback : (name.toList.map fun c => if c = '_' then '-' else c).map
      (fun c => if c = '-' then '_' else c) = name.toList := by
    rw [List.map_map]
    refine (List.map_congr_left fun c hc => ?_).trans (List.map_id _)
    have hdash : c ≠ '-' := fun heq => h (heq ▸ hc)
    by_cases hunderscore : c = '_' <;> simp [hunderscore, hdash]
  rw [nameOf, toList_spellingOf, List.drop_succ_cons, List.drop_succ_cons, List.drop_zero, hback,
    String.ofList_toList]

theorem isSpelling_spellingOf {name : String} (h : Text.isIdentifier name = true) :
    IsSpelling (spellingOf name) where
  dashed := by
    rw [looksLikeOption, toList_spellingOf]
    rfl
  unequal hmem :=
    Text.mark_not_mem h (by decide) (mem_of_mem_spellingOf (by decide) hmem)
  ne_dashes heq := by
    have hchars := congrArg String.toList heq
    rw [toList_spellingOf] at hchars
    have hnil : name.toList = [] := by simpa using hchars
    rw [Text.isIdentifier, hnil] at h
    cases h

/-! ## Parameters

What a declaration says and what its parameter does are compared once, in `Describes`; from there on
nothing looks at how a parameter is made. -/

/-- What a parameter has to do with the option that it was made of. -/
structure Describes (p : Parameter) (o : OptionSpec) : Prop where
  name : p.name = o.name
  spelling : p.spelling = spellingOf o.name
  /-- The name that is made of the spelling is the name of the option. -/
  back : nameOf p.spelling = o.name
  flag : o.type = .boolean → p.isFlag = true ∧ p.required = false ∧ p.kind = .boolean ∧
    p.default = .bool (o.default.getD .null).isGiven
  valued : o.type ≠ .boolean → p.isFlag = false ∧ (p.required = true ↔ o.default = none) ∧
    (∀ k, o.type.Resolves k ↔ p.kind = k) ∧ p.default = o.default.getD .null

end Parameter

namespace OptionSpec

/-- An option whose name is not changed on its way, and whose description can be shown. A name with
an underscore in front is left out: it may be the name of a remark, which is no option. -/
structure IsOrdinary (o : OptionSpec) : Prop where
  identifier : Text.isIdentifier o.name = true
  lowered : Text.lower o.name = o.name
  shown : o.name.toList.head? ≠ some '_'
  described : Parameter.isDescription o.description = true

section

open Parameter

variable {o : OptionSpec}

theorem IsOrdinary.isOption_eq (h : o.IsOrdinary) : o.isOption = true := by
  have hremarks : ∀ name ∈ remarkNames, name.toList.head? = some '_' := by decide
  rw [isOption, Bool.not_eq_true', List.contains_eq_mem, decide_eq_false_iff_not]
  exact fun hmem => h.shown (hremarks _ hmem)

theorem IsOrdinary.nameOf_eq (h : o.IsOrdinary) : nameOf (spellingOf o.name) = o.name := by
  rw [nameOf_spellingOf (Text.mark_not_mem h.identifier (by decide)), h.lowered]

theorem IsOrdinary.splitSlash_eq (h : o.IsOrdinary) :
    splitSlash (spellingOf o.name) = (spellingOf o.name, "") :=
  splitSlash_of_not_mem fun hmem => Text.mark_not_mem h.identifier (by decide)
    (mem_of_mem_spellingOf (by decide) hmem)

theorem IsOrdinary.describes (h : o.IsOrdinary) : (ofSpec o).Describes o := by
  have hname := h.nameOf_eq
  unfold ofSpec
  rw [h.splitSlash_eq]
  by_cases hboolean : o.type = .boolean
  · rw [if_pos (ValueType.isBoolean_eq_true_iff.mpr hboolean)]
    exact ⟨hname, rfl, hname, fun _ => ⟨rfl, rfl, rfl, rfl⟩, fun hne => absurd hboolean hne⟩
  · rw [if_neg (mt ValueType.isBoolean_eq_true_iff.mp hboolean)]
    exact ⟨hname, rfl, hname, fun heq => absurd heq hboolean,
      fun _ => ⟨rfl, Option.isNone_iff_eq_none, fun _ => ValueType.resolves_iff, rfl⟩⟩

theorem IsOrdinary.ofSpec?_eq (h : o.IsOrdinary) : ofSpec? o = .ok (ofSpec o) := by
  have hdescribes := h.describes
  have hsecond : "" ≠ (ofSpec o).spelling := by
    intro heq
    have hchars := congrArg String.toList (heq.trans hdescribes.spelling)
    rw [toList_spellingOf] at hchars
    cases hchars
  have hempty : "".isEmpty = true := rfl
  unfold ofSpec?
  rw [h.splitSlash_eq]
  simp only [hsecond, hdescribes.name, h.identifier, h.described, hempty, if_false, Bool.not_true,
    Bool.false_and, Bool.false_eq_true]

end

end OptionSpec

namespace CommandLine

/-! ## Values -/

/-- An option that is spelled out is this one: it has a value unless it is a flag. -/
structure SpelledOption.Spells (s : SpelledOption) (o : OptionSpec) : Prop where
  name : s.name = o.name
  spelling : s.spelling = Parameter.spellingOf o.name
  value : s.value? = none ↔ o.type = .boolean

/-- What an option is set to where some options are spelled out: what the last of its name says, or
else its default. -/
inductive IsSet (given : List SpelledOption) (o : OptionSpec) : Datum → Prop
  | switched {s : SpelledOption} (hlast : lastSpelled? given o.name = some s)
    (hvalue : s.value? = none) : IsSet given o (.bool true)
  | unswitched (hlast : lastSpelled? given o.name = none) (hflag : o.type = .boolean) :
    IsSet given o (.bool (o.default.getD .null).isGiven)
  | valued {s : SpelledOption} {text : String} {k : ParameterKind} {d : Datum}
    (hlast : lastSpelled? given o.name = some s) (hvalue : s.value? = some text)
    (hflag : o.type ≠ .boolean) (hkind : o.type.Resolves k)
    (hd : convert k (.text text) = .ok d) : IsSet given o d
  | unvalued {default : Datum} {k : ParameterKind} {d : Datum}
    (hlast : lastSpelled? given o.name = none) (hdefault : o.default = some default)
    (hflag : o.type ≠ .boolean) (hkind : o.type.Resolves k)
    (hd : convert k default = .ok d) : IsSet given o d

section

variable {given : List SpelledOption} {o : OptionSpec}

/-- What an option is set to is the value of its parameter. Together with `isSet_of_valueOf` this
says that an option is set to one thing at most. -/
theorem valueOf_of_isSet {p : Parameter} (hp : p.Describes o) {d : Datum} (h : IsSet given o d) :
    valueOf p (given.map SpelledOption.entry) = .ok d := by
  rw [valueOf_spelled, hp.name]
  cases h with
  | switched hlast hvalue =>
    simp only [hlast, SpelledOption.datum, hvalue, Option.elim_none]
  | unswitched hlast hflag =>
    obtain ⟨-, hrequired, hkind, hdefault⟩ := hp.flag hflag
    rw [hlast, hrequired, hkind, hdefault]
    rfl
  | valued hlast hvalue hflag hkind hd =>
    obtain ⟨-, -, hkinds, -⟩ := hp.valued hflag
    simpa only [hlast, SpelledOption.datum, hvalue, Option.elim_some, (hkinds _).mp hkind] using hd
  | unvalued hlast hdefault hflag hkind hd =>
    obtain ⟨-, hrequired, hkinds, hpdefault⟩ := hp.valued hflag
    have hnot : ¬ p.required = true := by simp [hrequired, hdefault]
    simpa only [hlast, if_neg hnot, hpdefault, hdefault, Option.getD_some, (hkinds _).mp hkind]
      using hd

theorem isSet_of_valueOf {p : Parameter} (hp : p.Describes o)
    (hgiven : ∀ s ∈ given, s.name = o.name → s.Spells o) {d : Datum}
    (h : valueOf p (given.map SpelledOption.entry) = .ok d) : IsSet given o d := by
  rw [valueOf_spelled, hp.name] at h
  cases hlast : lastSpelled? given o.name with
  | some s =>
    have hname : o.name = s.name := by simpa using List.find?_some hlast
    have hspells := hgiven s (List.mem_reverse.mp (List.mem_of_find?_eq_some hlast)) hname.symm
    simp only [hlast, SpelledOption.datum] at h
    -- Whether it has a value says whether the option is a flag.
    cases hvalue : s.value? with
    | none =>
      rw [hvalue] at h
      obtain rfl := Except.ok.inj h
      exact .switched hlast hvalue
    | some text =>
      have hflag : o.type ≠ .boolean := by simp [← hspells.value, hvalue]
      obtain ⟨-, -, hkinds, -⟩ := hp.valued hflag
      rw [hvalue] at h
      exact .valued hlast hvalue hflag ((hkinds _).mpr rfl) h
  | none =>
    simp only [hlast] at h
    by_cases hflag : o.type = .boolean
    · obtain ⟨-, hrequired, hkind, hdefault⟩ := hp.flag hflag
      rw [hrequired, hkind, hdefault] at h
      obtain rfl := Except.ok.inj h
      exact .unswitched hlast hflag
    · obtain ⟨-, hrequired, hkinds, hpdefault⟩ := hp.valued hflag
      cases hdefault : o.default with
      | none =>
        rw [if_pos (hrequired.mpr hdefault)] at h
        cases h
      | some default =>
        have hnot : ¬ p.required = true := by simp [hrequired, hdefault]
        rw [if_neg hnot, hpdefault, hdefault] at h
        exact .unvalued hlast hdefault hflag ((hkinds _).mpr rfl) h

end

/-! ## All options together -/

section

variable {fields : List OptionSpec}

/-- Names that come back cannot have shared a spelling. -/
theorem nodup_spellings (h : ∀ o ∈ fields, o.IsOrdinary) (hnames : (fields.map (·.name)).Nodup) :
    ((fields.map Parameter.ofSpec).map Parameter.spelling).Nodup := by
  have hback : ((fields.map Parameter.ofSpec).map Parameter.spelling).map Parameter.nameOf =
      fields.map (·.name) := by
    rw [List.map_map, List.map_map]
    exact List.map_congr_left fun o ho => (h o ho).describes.back
  rw [← hback] at hnames
  exact hnames.of_map _

theorem isKnown_of_spells (h : ∀ o ∈ fields, o.IsOrdinary) (hnames : (fields.map (·.name)).Nodup)
    {s : SpelledOption} {o : OptionSpec} (ho : o ∈ fields) (hs : s.Spells o) :
    s.IsKnown (fields.map Parameter.ofSpec) := by
  -- The parameter is found by its spelling, which is the spelling of the option.
  have hdescribes := (h o ho).describes
  have hfind := find?_spelling (nodup_spellings h hnames) (List.mem_map_of_mem ho)
  rw [hdescribes.spelling, ← hs.spelling] at hfind
  refine ⟨hs.spelling ▸ Parameter.isSpelling_spellingOf (h o ho).identifier, _, hfind,
    hdescribes.name.trans hs.name.symm, ?_⟩
  -- A flag stands alone, and any other option has a value.
  by_cases hflag : o.type = .boolean
  · rw [(hdescribes.flag hflag).1, hs.value.mpr hflag]
    rfl
  · rw [(hdescribes.valued hflag).1]
    have hvalue : s.value? ≠ none := mt hs.value.mp hflag
    cases hsome : s.value? with
    | none => exact absurd hsome hvalue
    | some text => rfl

/-- **Every option has its parameter, in its place, and is reached by it.** The spellings are
distinct, and each leads back to the name of its option. Whatever is spelled out for options is
understood, and makes a table of their names in which each option is set to what was spelled out for
it.

There is a table if every option can be set to something, and there is none otherwise: an option
that is required may have been left out, or a value may be no number where one is wanted. A field
whose name is in use by the record of options itself is another matter, and such a record is not
made in the first place (`OptionSpec.nameFault?`). -/
theorem parameters_lead_back (h : ∀ o ∈ fields, o.IsOrdinary)
    (hnames : (fields.map (·.name)).Nodup) :
    fields.mapM Parameter.ofSpec? = .ok (fields.map Parameter.ofSpec) ∧
    (OptionSpec.nameFault? fields = none →
      Parameter.ofSpecs fields = .ok (fields.map Parameter.ofSpec)) ∧
    (∀ o ∈ fields, (Parameter.ofSpec o).Describes o) ∧
    ((fields.map Parameter.ofSpec).map Parameter.spelling).Nodup ∧
    ∀ given : List SpelledOption, (∀ s ∈ given, ∃ o ∈ fields, s.Spells o) →
      sortArguments (fields.map Parameter.ofSpec)
          ((given.flatMap SpelledOption.arguments).map .text) {} =
        ⟨{ values := given.map SpelledOption.entry }, none⟩ ∧
      ((∀ o ∈ fields, ∃ d, IsSet given o d) → ∃ table,
        optionTable (fields.map Parameter.ofSpec) (given.map SpelledOption.entry) = .ok table) ∧
      ∀ table,
        optionTable (fields.map Parameter.ofSpec) (given.map SpelledOption.entry) = .ok table →
          table.map Prod.fst = fields.map (·.name) ∧
          ∀ o ∈ fields, ∃ d, IsSet given o d ∧ table.lookup o.name = some d := by
  have hall : fields.mapM Parameter.ofSpec? = .ok (fields.map Parameter.ofSpec) :=
    mapM_eq_ok fun o ho => (h o ho).ofSpec?_eq
  have hparameters : (fields.map Parameter.ofSpec).map Parameter.name = fields.map (·.name) := by
    rw [List.map_map]
    exact List.map_congr_left fun o ho => (h o ho).describes.name
  refine ⟨hall, fun hfault => ?_, fun o ho => (h o ho).describes, nodup_spellings h hnames,
    fun given hgiven => ⟨?_, fun hset => ?_, fun table htable => ⟨?_, fun o ho => ?_⟩⟩⟩
  · rw [Parameter.ofSpecs, OptionSpec.declared_eq_self hfault fun o ho => (h o ho).isOption_eq]
    exact hall
  · refine sortArguments_spelled (fun s hs => ?_) {}
    obtain ⟨o, ho, hspells⟩ := hgiven s hs
    exact isKnown_of_spells h hnames ho hspells
  · refine exists_optionTable fun p hp => ?_
    obtain ⟨o, ho, rfl⟩ := List.mem_map.mp hp
    obtain ⟨d, hd⟩ := hset o ho
    exact ⟨d, valueOf_of_isSet (h o ho).describes hd⟩
  · rw [keys_optionTable htable, hparameters]
  · obtain ⟨d, hvalue, hlookup⟩ :=
      lookup_optionTable (hparameters ▸ hnames) htable (List.mem_map_of_mem ho)
    rw [(h o ho).describes.name] at hlookup
    refine ⟨d, isSet_of_valueOf (h o ho).describes (fun s hs hname => ?_) hvalue, hlookup⟩
    -- Of all options, one that is spelled under this name spells this one.
    obtain ⟨o', ho', hspells⟩ := hgiven s hs
    rwa [List.inj_on_of_nodup_map hnames ho ho' (hname.symm.trans hspells.name)]

/-- An option under the name of the request for help, which may be null; a flag of two words; and
one that is no flag, though its first type is a truth value. -/
def threeOptions : List OptionSpec :=
  [⟨"help", .union [.nothing, .integer], some .null, .null⟩,
    ⟨"dry_run", .boolean, none, .text "Only say what would be done"⟩,
    ⟨"mode", .union [.boolean, .integer], none, .null⟩]

/-- The three options on a line that sets all of them. Two of their names could have gone wrong: the
first is spelled like the request for help and takes its place, and the second comes back with its
underscore. The third is taken for a text with a value behind it, and not for a flag. -/
theorem parameters_lead_back_three :
    (∀ o ∈ threeOptions, o.IsOrdinary) ∧ (threeOptions.map (·.name)).Nodup ∧
    OptionSpec.nameFault? threeOptions = none ∧
    Parameter.ofSpecs threeOptions = .ok (threeOptions.map Parameter.ofSpec) ∧
    ((threeOptions.map Parameter.ofSpec).map Parameter.spelling).Nodup ∧
    sortArguments (threeOptions.map Parameter.ofSpec)
        (["--help", "5", "--dry-run", "--mode=7"].map .text) {} =
      ⟨{ values := [("help", some (.text "5")), ("dry_run", none), ("mode", some (.text "7"))] },
        none⟩ ∧
    ∃ table, optionTable (threeOptions.map Parameter.ofSpec)
      [("help", some (.text "5")), ("dry_run", none), ("mode", some (.text "7"))] = .ok table := by
  have hordinary : ∀ o ∈ threeOptions, o.IsOrdinary := by
    have hall : ∀ o ∈ threeOptions, Text.isIdentifier o.name = true ∧
        Text.lower o.name = o.name ∧ o.name.toList.head? ≠ some '_' ∧
        Parameter.isDescription o.description = true := by
      decide +kernel
    intro o ho
    obtain ⟨hidentifier, hlowered, hshown, hdescribed⟩ := hall o ho
    exact ⟨hidentifier, hlowered, hshown, hdescribed⟩
  have hnames : (threeOptions.map (·.name)).Nodup := by decide
  have hfault : OptionSpec.nameFault? threeOptions = none := rfl
  have hgiven : ∀ s ∈ [⟨"help", "--help", some "5", false⟩, ⟨"dry_run", "--dry-run", none, false⟩,
      (⟨"mode", "--mode", some "7", true⟩ : SpelledOption)],
      ∃ o ∈ threeOptions, s.Spells o := by
    intro s hs
    simp only [List.mem_cons, List.not_mem_nil, or_false] at hs
    obtain rfl | rfl | rfl := hs
    · exact ⟨_, .head _, rfl, rfl, by simp⟩
    · exact ⟨_, .tail _ (.head _), rfl, rfl, by simp⟩
    · exact ⟨_, .tail _ (.tail _ (.head _)), rfl, rfl, by simp⟩
  obtain ⟨-, hofSpecs, -, hspellings, hreach⟩ := parameters_lead_back hordinary hnames
  obtain ⟨hsorted, htable, -⟩ := hreach _ hgiven
  refine ⟨hordinary, hnames, hfault, hofSpecs hfault, hspellings, hsorted, htable fun o ho => ?_⟩
  simp only [threeOptions, List.mem_cons, List.not_mem_nil, or_false] at ho
  obtain rfl | rfl | rfl := ho
  · exact ⟨_, .valued rfl rfl (by simp) (ValueType.resolves_kind _) rfl⟩
  · exact ⟨_, .switched rfl rfl⟩
  · exact ⟨_, .valued rfl rfl (by simp) (ValueType.resolves_kind _) rfl⟩

end

end CommandLine

end Dicebox
