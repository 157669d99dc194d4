import Dicebox.CommandLine.Run
import Dicebox.Proofs.CommandLine.Sorting
import Dicebox.Proofs.Text.DecimalInteger

/-!
# Options on a command line and in a table

Whoever hands options to a command directly hands over a table of values. On a command line the same
options are words, each with its value in one of two places: the next argument, or the same argument
after an equals sign. Between the two the command line sorts words, finds values for its parameters,
converts them, and fills in its own defaults. What comes of this is

> **a table in which the command reads what it reads in the other one**
> (`readOptions_completedTable`),

whichever options are given, in whichever order, and however often: in both the last one counts.
The two tables are not the same. The one from the command line has an entry for every option of the
command, and the defaults in it are those of the parameters.

How arguments are sorted, and what comes of their values, is the same for all options
(`sortArguments_spelled`, `valueOf_spelled`).
-/

set_option autoImplicit false

namespace Dicebox.CommandLine

/-! ## Options -/

/-- An option of one of the two commands. -/
inductive Choice
  | expr (text : String)
  | verbose
  | seed (n : Text.DecimalInteger)

namespace Choice

/-- The name of an option in a table. -/
def name : Choice → String
  | expr _ => "expr"
  | verbose => "verbose"
  | seed _ => "seed"

/-- The value of an option in a table. -/
def datum : Choice → Datum
  | expr text => .text text
  | verbose => .bool true
  | seed n => .int n.value

/-- The spelling of an option on a command line. -/
def spelling (c : Choice) : String := "--" ++ c.name

/-- The value of an option on a command line; a flag has none. -/
def written? : Choice → Option String
  | expr text => some text
  | verbose => none
  | seed n => some n.text

/-- Whether a command has such an option. -/
def belongsTo (c : Choice) (command : Command) : Bool :=
  command.options.any (·.name == c.name)

end Choice

/-- An option as it is given on a command line. -/
structure GivenOption where
  choice : Choice
  /-- Whether its value, if it has one, is joined to it by an equals sign. -/
  joined : Bool

/-- The arguments that an option takes up. -/
def GivenOption.arguments (g : GivenOption) : List String :=
  match g.choice.written? with
  | none => [g.choice.spelling]
  | some value =>
    if g.joined then [g.choice.spelling ++ "=" ++ value] else [g.choice.spelling, value]

/-- An option of one of the two commands is an option on a command line. -/
def GivenOption.spelled (g : GivenOption) : SpelledOption :=
  ⟨g.choice.name, g.choice.spelling, g.choice.written?, g.joined⟩

/-- Some options as a table; of those that are given more than once the last one counts. -/
def tableOf (given : List GivenOption) : List (String × Datum) :=
  (OrderedMap.ofList (given.map fun g => (g.choice.name, g.choice.datum))).entries

/-! ## Spellings -/

namespace Choice

/-- The spellings of all options. -/
def spellings : List String := ["--expr", "--verbose", "--seed"]

theorem spelling_mem (c : Choice) : c.spelling ∈ spellings := by
  cases c with
  | expr text => exact List.mem_cons_self
  | verbose => exact List.mem_cons_of_mem _ List.mem_cons_self
  | seed n => exact List.mem_cons_of_mem _ (List.mem_cons_of_mem _ List.mem_cons_self)

theorem isSpelling_spelling (c : Choice) : IsSpelling c.spelling := by
  have hall : ∀ spelling ∈ spellings, looksLikeOption spelling = true ∧
      '=' ∉ spelling.toList ∧ spelling ≠ "--" := by
    decide
  obtain ⟨hdashed, hunequal, hdashes⟩ := hall _ c.spelling_mem
  exact ⟨hdashed, hunequal, hdashes⟩

end Choice

/-! ## Sorting

What the two commands have for options are options like any others, so this is the case of them in
`sortArguments_spelled`. Which parameters the command has is left open until its table is made. -/

section

variable {parameters : List Parameter}

/-- The parameter of an option is found by its spelling, and takes a value if the option has one. -/
def Finds (parameters : List Parameter) (c : Choice) : Prop :=
  ∃ p, parameters.find? (·.spelling == c.spelling) = some p ∧ p.name = c.name ∧
    p.isFlag = c.written?.isNone

/-- All options are sorted, in their order, and nothing else is found. -/
theorem sortArguments_given {given : List GivenOption}
    (h : ∀ g ∈ given, Finds parameters g.choice) (done : Arguments) :
    sortArguments parameters ((given.flatMap GivenOption.arguments).map .text) done =
      ⟨{ done with values := done.values ++
          given.map fun g => (g.choice.name, g.choice.written?.map .text) }, none⟩ := by
  have hknown : ∀ s ∈ given.map GivenOption.spelled, s.IsKnown parameters := by
    intro s hs
    obtain ⟨g, hg, rfl⟩ := List.mem_map.mp hs
    exact ⟨g.choice.isSpelling_spelling, h g hg⟩
  have hsorted := sortArguments_spelled hknown done
  rw [List.flatMap_map, List.map_map] at hsorted
  exact hsorted

end

/-! ## Values -/

/-- The last option of a name. It is what both tables are compared through: one is made of defaults
that are replaced, the other of entries that replace each other. -/
def lastChoice? (given : List GivenOption) (name : String) : Option Choice :=
  (given.reverse.find? fun g => name == g.choice.name).map GivenOption.choice

section

variable {given : List GivenOption} {name : String}

theorem name_of_lastChoice? {c : Choice} (h : lastChoice? given name = some c) : c.name = name := by
  obtain ⟨g, hg, rfl⟩ := Option.map_eq_some_iff.1 h
  have hname := List.find?_some hg
  rw [beq_iff_eq] at hname
  exact hname.symm

theorem lookup_tableOf (given : List GivenOption) (name : String) :
    (tableOf given).lookup name = (lastChoice? given name).map Choice.datum := by
  rw [lastChoice?, Option.map_map]
  exact OrderedMap.find?_ofList_map _ (fun g => g.choice.datum) given name

/-- What stands on the command line for an option is converted into its value. -/
def Converts (p : Parameter) (c : Choice) : Prop :=
  (c.written?.elim (.ok (.bool true)) fun text => convert p.kind (.text text)) = .ok c.datum

/-- A parameter has the value of the last option of its name, or else its own default. -/
theorem valueOf_given {p : Parameter} (hrequired : p.required = false)
    (hdefault : convert p.kind p.default = .ok p.default)
    (hconverts : ∀ c, lastChoice? given p.name = some c → Converts p c) :
    valueOf p (given.map fun g => (g.choice.name, g.choice.written?.map .text)) =
      .ok ((lastChoice? given p.name).elim p.default Choice.datum) := by
  have hentries : (given.map fun g => (g.choice.name, g.choice.written?.map Datum.text)) =
      (given.map GivenOption.spelled).map SpelledOption.entry := by
    rw [List.map_map]
    rfl
  have hlast : lastSpelled? (given.map GivenOption.spelled) p.name =
      (given.reverse.find? fun g => p.name == g.choice.name).map GivenOption.spelled := by
    rw [lastSpelled?, ← List.map_reverse, List.find?_map]
    rfl
  rw [hentries, valueOf_spelled, hlast]
  rw [lastChoice?] at hconverts ⊢
  cases hfind : given.reverse.find? fun g => p.name == g.choice.name with
  | none =>
    simp only [Option.map_none, hrequired]
    exact hdefault
  | some g => exact hconverts g.choice (congrArg (Option.map GivenOption.choice) hfind)

end

/-! ## Tables

The line makes a table with all parameters, in their order, with defaults for those that were left
out. A caller makes one of the options there are. They are different tables, and the command reads
the same in both. -/

theorem builtIn_cases {word : String} {command : Command}
    (h : Registry.builtIn.find? (.text word) = some command) :
    word = "roll" ∧ command = .roll ∨ word = "randomness" ∧ command = .randomness := by
  have hentries : Registry.builtIn.commands.entries =
      [(.text "randomness", .randomness), (.text "roll", .roll)] := rfl
  rw [Registry.find?, OrderedMap.find?, hentries, List.lookup_cons, List.lookup_cons,
    Name.text_beq, Name.text_beq] at h
  cases hrandomness : word == "randomness" with
  | true =>
    rw [hrandomness] at h
    exact .inr ⟨beq_iff_eq.1 hrandomness, (Option.some.inj h).symm⟩
  | false =>
    rw [hrandomness] at h
    cases hroll : word == "roll" with
    | true =>
      rw [hroll] at h
      exact .inl ⟨beq_iff_eq.1 hroll, (Option.some.inj h).symm⟩
    | false =>
      rw [hroll] at h
      cases h

/-- The parameters of a command. -/
def parametersOf (command : Command) : List Parameter := command.options.map Parameter.ofSpec

theorem finds_of_belongsTo {word : String} {command : Command}
    (hcommand : Registry.builtIn.find? (.text word) = some command) {c : Choice}
    (h : c.belongsTo command = true) : Finds (parametersOf command) c := by
  obtain ⟨-, rfl⟩ | ⟨-, rfl⟩ := builtIn_cases hcommand
  · cases c with
    | expr text => exact ⟨_, rfl, rfl, rfl⟩
    | verbose => exact ⟨_, rfl, rfl, rfl⟩
    | seed n => cases h
  · cases c with
    | expr text => exact ⟨_, rfl, rfl, rfl⟩
    | verbose => cases h
    | seed n => exact ⟨_, rfl, rfl, rfl⟩

theorem convert_integer (n : Text.DecimalInteger) :
    convert .integer (.text n.text) = .ok (.int n.value) := by
  have hread : (Datum.text n.text).toInteger = .ok n.value := by
    rw [Datum.toInteger, n.readLoose_text]
    rfl
  have hconvert : convert .integer (.text n.text) = convertInteger (.text n.text) := rfl
  rw [hconvert]
  unfold convertInteger
  rw [hread]

/-- A default stays what it is when it is converted. It is converted like anything that was written,
though it need not be of the kind that this is for, as null is not. -/
theorem convert_default {word : String} {command : Command}
    (hcommand : Registry.builtIn.find? (.text word) = some command) :
    ∀ p ∈ parametersOf command, convert p.kind p.default = .ok p.default := by
  intro p hp
  obtain ⟨-, rfl⟩ | ⟨-, rfl⟩ := builtIn_cases hcommand
  · rw [parametersOf, Command.roll, RollOptions.specs] at hp
    simp only [List.map_cons, List.map_nil, List.mem_cons, List.not_mem_nil, or_false] at hp
    obtain rfl | rfl := hp <;> rfl
  · rw [parametersOf, Command.randomness, RandomnessOptions.specs] at hp
    simp only [List.map_cons, List.map_nil, List.mem_cons, List.not_mem_nil, or_false] at hp
    obtain rfl | rfl := hp <;> rfl

/-- No parameter is required, and each converts what is written for an option of its name. -/
theorem parametersOf_builtIn {word : String} {command : Command}
    (hcommand : Registry.builtIn.find? (.text word) = some command) :
    ∀ p ∈ parametersOf command, p.required = false ∧
      ∀ c : Choice, c.name = p.name → Converts p c := by
  -- A parameter may have one of three names, and only the kind that goes with the name matters.
  have hconverts : ∀ p ∈ parametersOf command,
      (p.name = "expr" ∧ p.kind = .text ∨ p.name = "verbose" ∨
        p.name = "seed" ∧ p.kind = .integer) ∧ p.required = false := by
    obtain ⟨-, rfl⟩ | ⟨-, rfl⟩ := builtIn_cases hcommand <;> decide +kernel
  intro p hp
  obtain ⟨hkind, hrequired⟩ := hconverts p hp
  refine ⟨hrequired, fun c hc => ?_⟩
  rw [Converts]
  cases c with
  | expr text =>
    obtain ⟨-, hkind⟩ | hname | ⟨hname, -⟩ := hkind
    · rw [hkind]
      rfl
    · simp [hname, Choice.name] at hc
    · simp [hname, Choice.name] at hc
  | verbose => rfl
  | seed n =>
    obtain ⟨hname, -⟩ | hname | ⟨-, hkind⟩ := hkind
    · simp [hname, Choice.name] at hc
    · simp [hname, Choice.name] at hc
    · rw [hkind]
      exact convert_integer n

/-- The table that the command line makes of some options. -/
def completedTable (command : Command) (given : List GivenOption) : List (String × Datum) :=
  (parametersOf command).map fun p =>
    (p.name, (lastChoice? given p.name).elim p.default Choice.datum)

theorem optionTable_given {word : String} {command : Command}
    (hcommand : Registry.builtIn.find? (.text word) = some command) (given : List GivenOption) :
    optionTable (parametersOf command)
      (given.map fun g => (g.choice.name, g.choice.written?.map .text)) =
        .ok (completedTable command given) := by
  have hp := parametersOf_builtIn hcommand
  have hdefault := convert_default hcommand
  refine mapM_eq_ok fun p hmem => ?_
  obtain ⟨hrequired, hconverts⟩ := hp p hmem
  have hvalue := valueOf_given hrequired (hdefault p hmem)
    fun c (hc : lastChoice? given p.name = some c) => hconverts c (name_of_lastChoice? hc)
  rw [hvalue]
  rfl

/-- Whether an option that is left out has its default filled in before it is read or afterwards, it
comes to the same. -/
theorem exists_read_last {α : Type} {read : Datum → Except Complaint α} {default : Datum}
    {fallback : α} {name : String} (hdefault : read default = .ok fallback)
    (hread : ∀ c : Choice, c.name = name → ∃ a, read c.datum = .ok a) (given : List GivenOption) :
    ∃ a, read ((lastChoice? given name).elim default Choice.datum) = .ok a ∧
      ((tableOf given).lookup name).elim (.ok fallback) read = .ok a := by
  rw [lookup_tableOf]
  cases hlast : lastChoice? given name with
  | none => exact ⟨fallback, hdefault, rfl⟩
  | some c =>
    obtain ⟨a, ha⟩ := hread c (name_of_lastChoice? hlast)
    exact ⟨a, ha, ha⟩

theorem exists_read_roll (given : List GivenOption) :
    ∃ o, RollOptions.read (completedTable .roll given) = .ok o ∧
      RollOptions.read (tableOf given) = .ok o := by
  have hexprs (c : Choice) (hc : c.name = "expr") : ∃ a, Reading.text c.datum = .ok a := by
    cases c with
    | expr text => exact ⟨text, rfl⟩
    | verbose | seed => simp [Choice.name] at hc
  have hverboses (c : Choice) (hc : c.name = "verbose") :
      ∃ a, Reading.boolean c.datum = .ok a := by
    cases c with
    | verbose => exact ⟨true, rfl⟩
    | expr | seed => simp [Choice.name] at hc
  have hdefault : Reading.text (.text "1d20") = .ok "1d20" := rfl
  have hdefault' : Reading.boolean (.bool false) = .ok false := rfl
  obtain ⟨expr, hexpr, hexpr'⟩ := exists_read_last hdefault hexprs given
  obtain ⟨verbose, hverbose, hverbose'⟩ := exists_read_last hdefault' hverboses given
  have hlookup : (completedTable .roll given).lookup "expr" =
      some ((lastChoice? given "expr").elim (.text "1d20") Choice.datum) := rfl
  have hlookup' : (completedTable .roll given).lookup "verbose" =
      some ((lastChoice? given "verbose").elim (.bool false) Choice.datum) := rfl
  refine ⟨⟨expr, verbose⟩, ?_, ?_⟩
  · simp only [RollOptions.read, hlookup, hlookup', Option.elim_some, hexpr, hverbose]
    rfl
  · simp only [RollOptions.read, hexpr', hverbose']
    rfl

theorem exists_read_randomness (given : List GivenOption) :
    ∃ o, RandomnessOptions.read (completedTable .randomness given) = .ok o ∧
      RandomnessOptions.read (tableOf given) = .ok o := by
  have hexprs (c : Choice) (hc : c.name = "expr") :
      ∃ a, Reading.optional Reading.text c.datum = .ok a := by
    cases c with
    | expr text => exact ⟨some text, rfl⟩
    | verbose | seed => simp [Choice.name] at hc
  have hseeds (c : Choice) (hc : c.name = "seed") :
      ∃ a, Reading.optional Reading.integer c.datum = .ok a := by
    cases c with
    | seed n => exact ⟨some n.value, rfl⟩
    | expr | verbose => simp [Choice.name] at hc
  have hdefault : Reading.optional Reading.text .null = .ok none := rfl
  have hdefault' : Reading.optional Reading.integer .null = .ok none := rfl
  obtain ⟨expr, hexpr, hexpr'⟩ := exists_read_last hdefault hexprs given
  obtain ⟨seed, hseed, hseed'⟩ := exists_read_last hdefault' hseeds given
  have hlookup : (completedTable .randomness given).lookup "expr" =
      some ((lastChoice? given "expr").elim .null Choice.datum) := rfl
  have hlookup' : (completedTable .randomness given).lookup "seed" =
      some ((lastChoice? given "seed").elim .null Choice.datum) := rfl
  refine ⟨⟨expr, seed⟩, ?_, ?_⟩
  · simp only [RandomnessOptions.read, hlookup, hlookup', Option.elim_some, hexpr, hseed]
    rfl
  · simp only [RandomnessOptions.read, hexpr', hseed']
    rfl

/-- A command reads the same in both tables, and can read it: the options that a line can give have
values of the right kind, and a default that is filled in reads as what is taken where there is
none. -/
theorem readOptions_completedTable {word : String} {command : Command}
    (hcommand : Registry.builtIn.find? (.text word) = some command) (given : List GivenOption) :
    ∃ values, Command.readOptions command.action (.table (completedTable command given)) =
        .ok values ∧
      Command.readOptions command.action (.table (tableOf given)) = .ok values ∧
      values ≠ .none := by
  obtain ⟨-, rfl⟩ | ⟨-, rfl⟩ := builtIn_cases hcommand
  · obtain ⟨o, hcompleted, htable⟩ := exists_read_roll given
    exact ⟨.roll o, congrArg (Except.map OptionValues.roll) hcompleted,
      congrArg (Except.map OptionValues.roll) htable, fun h => by cases h⟩
  · obtain ⟨o, hcompleted, htable⟩ := exists_read_randomness given
    exact ⟨.randomness o, congrArg (Except.map OptionValues.randomness) hcompleted,
      congrArg (Except.map OptionValues.randomness) htable, fun h => by cases h⟩

end Dicebox.CommandLine
