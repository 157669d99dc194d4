import Dicebox.CommandLine.Arguments
import Dicebox.OrderedMap
import Dicebox.Proofs.Run.Results

/-!
# Options that are spelled out on a command line

A flag stands alone. Any other option has its value in one of two places: the next argument, or the
same argument after an equals sign. `SpelledOption` is an option in one of these ways of writing. A
command line that is made of nothing else is sorted into

> **the values of these options, under their names and in their order** (`sortArguments_spelled`),

provided that each of them is known by its spelling (`IsKnown`). Of the parameters, each then has
the value of the last option of its name, or its default (`valueOf_spelled`), and all of them
together make a table (`optionTable_eq_ok_iff`).
-/

set_option autoImplicit false

namespace Dicebox.CommandLine

/-- An option on a command line. -/
structure SpelledOption where
  /-- The name of what is set. -/
  name : String
  spelling : String
  /-- Its value; a flag has none. -/
  value? : Option String
  /-- Whether the value, if there is one, is joined to the spelling by an equals sign. -/
  joined : Bool
  deriving Repr, DecidableEq

namespace SpelledOption

/-- The arguments that an option takes up. -/
def arguments (s : SpelledOption) : List String :=
  match s.value? with
  | none => [s.spelling]
  | some value => if s.joined then [s.spelling ++ "=" ++ value] else [s.spelling, value]

/-- What is left of an option when it has been sorted. -/
def entry (s : SpelledOption) : String × Option Datum := (s.name, s.value?.map .text)

/-- What an option sets a parameter of some type to. -/
def datum (kind : ParameterKind) (s : SpelledOption) : Except Stop Datum :=
  s.value?.elim (.ok (.bool true)) fun value => convert kind (.text value)

end SpelledOption

/-! ## Spellings

An argument is looked at four times before it is taken for an option: whether it ends the options,
whether it has dashes in front, where its first equals sign is, and whose spelling stands before
that. The value has no say in this. It may begin with dashes itself, or have an equals sign in it.
-/

theorem span_equals {spelling : String} (h : '=' ∉ spelling.toList) (rest : List Char) :
    (spelling.toList ++ rest).takeWhile (· ≠ '=') =
        spelling.toList ++ rest.takeWhile (· ≠ '=') ∧
      (spelling.toList ++ rest).dropWhile (· ≠ '=') = rest.dropWhile (· ≠ '=') := by
  have hall : ∀ c ∈ spelling.toList, decide (c ≠ '=') = true := by
    intro c hc
    rw [decide_eq_true_eq]
    rintro rfl
    exact h hc
  exact ⟨List.takeWhile_append_of_pos hall, List.dropWhile_append_of_pos hall⟩

theorem splitValue_of_not_mem {spelling : String} (h : '=' ∉ spelling.toList) :
    splitValue spelling = (spelling, none) := by
  obtain ⟨htake, hdrop⟩ := span_equals h []
  rw [List.append_nil, List.takeWhile_nil, List.append_nil] at htake
  rw [List.append_nil, List.dropWhile_nil] at hdrop
  unfold splitValue
  simp only [htake, hdrop, String.ofList_toList]

theorem splitValue_joined {spelling : String} (h : '=' ∉ spelling.toList) (value : String) :
    splitValue (spelling ++ "=" ++ value) = (spelling, some value) := by
  have hchars : (spelling ++ "=" ++ value).toList = spelling.toList ++ '=' :: value.toList := by
    simp
  obtain ⟨htake, hdrop⟩ := span_equals h ('=' :: value.toList)
  rw [List.takeWhile_cons_of_neg (by simp), List.append_nil] at htake
  rw [List.dropWhile_cons_of_neg (by simp)] at hdrop
  unfold splitValue
  simp only [hchars, htake, hdrop, String.ofList_toList]

theorem looksLikeOption_append {a : String} (h : looksLikeOption a = true) (b : String) :
    looksLikeOption (a ++ b) = true := by
  unfold looksLikeOption at *
  rw [String.toList_append]
  split at h
  · next c rest hchars => rw [hchars]; rfl
  · cases h

theorem joined_ne_dashes (spelling value : String) : spelling ++ "=" ++ value ≠ "--" := by
  intro h
  have hmem : '=' ∈ (spelling ++ "=" ++ value).toList := by simp
  rw [h] at hmem
  revert hmem
  decide

/-- A text is taken for an option as a whole. -/
structure IsSpelling (spelling : String) : Prop where
  dashed : looksLikeOption spelling = true
  unequal : '=' ∉ spelling.toList
  ne_dashes : spelling ≠ "--"

/-! ## Sorting -/

section

variable {parameters : List Parameter}

/-- An option is one of the parameters, and has a value if that takes one. -/
structure SpelledOption.IsKnown (parameters : List Parameter) (s : SpelledOption) : Prop where
  spelled : IsSpelling s.spelling
  found : ∃ p, parameters.find? (·.spelling == s.spelling) = some p ∧ p.name = s.name ∧
    p.isFlag = s.value?.isNone

theorem find?_spelling (hspellings : (parameters.map Parameter.spelling).Nodup) {p : Parameter}
    (hp : p ∈ parameters) : parameters.find? (·.spelling == p.spelling) = some p := by
  induction parameters with
  | nil => cases hp
  | cons q rest ih =>
    rw [List.map_cons, List.nodup_cons] at hspellings
    rcases List.mem_cons.mp hp with rfl | hmem
    · exact List.find?_cons_of_pos (by simp)
    · have hne : q.spelling ≠ p.spelling := fun heq =>
        hspellings.1 (heq ▸ List.mem_map_of_mem hmem)
      rw [List.find?_cons_of_neg (by simpa using hne)]
      exact ih hspellings.2 hmem

/-- One option is sorted, and its arguments are used up. There are three ways of writing, and a
value in an argument of its own is taken without being looked at. -/
theorem sortArguments_arguments {s : SpelledOption} (h : s.IsKnown parameters)
    (rest : List Datum) (done : Arguments) :
    sortArguments parameters (s.arguments.map .text ++ rest) done =
      sortArguments parameters rest (done.addValue s.name (s.value?.map .text)) := by
  obtain ⟨⟨hdashed, hunequal, hdashes⟩, p, hfind, hname, hflag⟩ := h
  unfold SpelledOption.arguments
  cases hvalue : s.value? with
  | none =>
    -- A flag stands alone.
    rw [hvalue] at hflag
    simp [sortArguments, hdashes, hdashed, splitValue_of_not_mem hunequal, hfind, hflag, hname]
  | some value =>
    rw [hvalue] at hflag
    by_cases hjoined : s.joined = true
    · have hdashed' : looksLikeOption (s.spelling ++ "=" ++ value) = true := by
        rw [String.append_assoc]
        exact looksLikeOption_append hdashed _
      simp [hjoined, sortArguments, joined_ne_dashes, hdashed',
        splitValue_joined hunequal, hfind, hflag, hname]
    · simp [hjoined, sortArguments, hdashes, hdashed, splitValue_of_not_mem hunequal, hfind, hflag,
        hname]

theorem sortArguments_spelled {given : List SpelledOption} (h : ∀ s ∈ given, s.IsKnown parameters)
    (done : Arguments) :
    sortArguments parameters ((given.flatMap SpelledOption.arguments).map .text) done =
      ⟨{ done with values := done.values ++ given.map SpelledOption.entry }, none⟩ := by
  -- Options are sorted from the front, so what has been sorted so far is generalized.
  induction given generalizing done with
  | nil => simp [sortArguments]
  | cons s rest ih =>
    rw [List.flatMap_cons, List.map_append, sortArguments_arguments (h s (by simp)),
      ih fun s' hs' => h s' (List.mem_cons_of_mem s hs')]
    simp [Arguments.addValue, SpelledOption.entry]

end

/-! ## Values -/

/-- The last option of a name. -/
def lastSpelled? (given : List SpelledOption) (name : String) : Option SpelledOption :=
  given.reverse.find? fun s => name == s.name

/-- A parameter is set by the last option of its name. Values are kept in the order of the line, and
it is the search for one of them that begins at the end. -/
theorem valueOf_spelled (p : Parameter) (given : List SpelledOption) :
    valueOf p (given.map SpelledOption.entry) =
      match lastSpelled? given p.name with
      | some s => s.datum p.kind
      | none =>
        if p.required then .error (.misunderstood (.missingOption p.spelling))
        else convert p.kind p.default := by
  have hlookup : (given.map SpelledOption.entry).reverse.lookup p.name =
      (lastSpelled? given p.name).map fun s => s.value?.map .text := by
    rw [← List.map_reverse]
    exact OrderedMap.lookup_map SpelledOption.name (fun s => s.value?.map Datum.text) _ _
  rw [valueOf, hlookup]
  cases lastSpelled? given p.name with
  | none => rfl
  | some s =>
    obtain ⟨name, spelling, value?, joined⟩ := s
    cases value? <;> rfl

/-! ## Tables

Either all parameters have values and there is a table of them, or there is none. So a table is held
against the list of parameters as a whole, and what it says of one name is read off that. -/

section

variable {parameters : List Parameter} {values : List (String × Option Datum)}
  {table : List (String × Datum)}

/-- A table has a value for each parameter, and under its name. -/
theorem optionTable_eq_ok_iff : optionTable parameters values = .ok table ↔
    List.Forall₂ (fun p e => p.name = e.1 ∧ valueOf p values = .ok e.2) parameters table := by
  have hentry : ∀ p e, (do return (p.name, ← valueOf p values) : Except Stop _) = .ok e ↔
      p.name = e.1 ∧ valueOf p values = .ok e.2 := by
    rintro p ⟨name, d⟩
    cases valueOf p values with
    | error e => simp [bind, Except.bind]
    | ok d' => simp [bind, Except.bind, pure, Except.pure]
  rw [optionTable, mapM_eq_ok_iff]
  simp only [hentry]

theorem keys_optionTable (h : optionTable parameters values = .ok table) :
    table.map Prod.fst = parameters.map Parameter.name := by
  have hkeys : List.Forall₂ (· = ·) (parameters.map Parameter.name) (table.map Prod.fst) := by
    rw [List.forall₂_map_left_iff, List.forall₂_map_right_iff]
    exact (optionTable_eq_ok_iff.mp h).imp fun _ _ he => he.1
  rw [List.forall₂_eq_eq_eq] at hkeys
  exact hkeys.symm

theorem lookup_optionTable (hnames : (parameters.map Parameter.name).Nodup)
    (h : optionTable parameters values = .ok table) {p : Parameter} (hp : p ∈ parameters) :
    ∃ d, valueOf p values = .ok d ∧ table.lookup p.name = some d := by
  have htable := optionTable_eq_ok_iff.mp h
  clear h
  induction htable with
  | nil => cases hp
  | @cons q e rest entries he _ ih =>
    obtain ⟨hname, hvalue⟩ := he
    rw [List.map_cons, List.nodup_cons] at hnames
    rw [List.lookup_cons, ← hname]
    rcases List.mem_cons.mp hp with rfl | hmem
    · rw [beq_self_eq_true]
      exact ⟨e.2, hvalue, rfl⟩
    · have hne : p.name ≠ q.name := fun heq => hnames.1 (heq ▸ List.mem_map_of_mem hmem)
      rw [beq_false_of_ne hne]
      exact ih hnames.2 hmem

theorem exists_optionTable (h : ∀ p ∈ parameters, ∃ d, valueOf p values = .ok d) :
    ∃ table, optionTable parameters values = .ok table := by
  simp only [optionTable_eq_ok_iff]
  induction parameters with
  | nil => exact ⟨[], .nil⟩
  | cons p rest ih =>
    obtain ⟨d, hd⟩ := h p List.mem_cons_self
    obtain ⟨entries, hentries⟩ := ih fun q hq => h q (List.mem_cons_of_mem p hq)
    exact ⟨(p.name, d) :: entries, .cons ⟨rfl, hd⟩ hentries⟩

end

end Dicebox.CommandLine
