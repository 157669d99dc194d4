import Dicebox.Proofs.Settings.Configuration

/-!
# Four sources of settings

Of all the layers that settings are searched in, four are left when no directions are given: values
given outright, the dotenv file of the place, its environment, and its configuration file
(`Origin`). What each of them says about a setting is `Place.valueFrom`, without regard to how the
layers are made:

> **the search finds for every setting what the first of the four says that says anything, and
> otherwise its default** (`winner_search`).

The dotenv file is read as a dictionary before case is folded. Of two spellings of one name the one
that came first stays first, and takes the last value written for it; so it is the dictionary that
`dotenvVariables` lists, and not the lines.
-/

set_option autoImplicit false

namespace Dicebox

/-! ## What sources say

A source is described by what it says about one setting, and not by the dictionary that it makes on
the way there. Of the two sources with variables, the environment is given as a list, and the dotenv
file is a text that first has to become one. -/

/-- A source of settings. Arguments and files with secrets are left out: without directions nothing
leads to them. -/
inductive Origin
  | given
  | dotenv
  | environment
  | config
  deriving Repr, DecidableEq

namespace Origin

/-- All sources, the highest first. -/
def all : List Origin := [given, dotenv, environment, config]

theorem mem_all (o : Origin) : o ∈ all := by cases o <;> decide

end Origin

/-- What variables say about a setting. Their names may be written in any case, and the last of them
counts; without a value it says nothing. -/
def variableFor? (vars : List (String × Option String)) (s : Setting) : Option Datum :=
  ((vars.reverse.find? fun v => s.name == Text.lower v.1).bind Prod.snd).map .text

namespace Place

/-- The variables in the dotenv file of a place. -/
def dotenvVariables (p : Place) : List (String × Option String) :=
  p.dotenv.elim [] fun text =>
    (OrderedMap.ofList ((Dotenv.statements (Text.unifyLineEnds text.toList)).filterMap
      Dotenv.Statement.entry?)).entries

/-- What a source says about a setting. The environment never says that a variable has no value, so
its variables are taken for ones that all have some. -/
def valueFrom (p : Place) (given : List (String × Datum)) : Origin → Setting → Option Datum
  | .given, s => givenFor? given s
  | .dotenv, s => variableFor? p.dotenvVariables s
  | .environment, s => variableFor? (p.environment.map fun v => (v.1, some v.2)) s
  | .config, s => p.configFile.map fun content => configured content s

/-- The value of a setting before it is read: that of the first source which has one. -/
def raw (p : Place) (given : List (String × Datum)) (s : Setting) : Datum :=
  (Origin.all.findSome? fun o => p.valueFrom given o s).getD s.default

end Place

/-- No directions are given, neither those that there are nor the one that nobody may give. -/
def Undirected (given : List (String × Datum)) : Prop :=
  ∀ name ∈ Directions.forbiddenName :: Directions.names, given.lookup name = none

/-! ## Names -/

theorem Setting.lower_name (s : Setting) : Text.lower s.name = s.name := by
  cases s <;> decide +kernel

theorem Setting.ofName?_name (s : Setting) : Setting.ofName? s.name = some s := by
  cases s <;> decide +kernel

theorem Directions.nameOf_default (s : Setting) : ({} : Directions).nameOf s = s.name := by
  cases s <;> decide +kernel

/-! ## Variables

Collecting variables folds the case of their names while a dictionary is made, and the dictionary
keeps the place of the first spelling and the value of the last. Asked for one name, it gives what a
search from the end of the list gives. -/

namespace Variables

theorem value?_collect (vars : List (String × Option String)) (s : Setting) :
    value? {} (collect {} vars) s = variableFor? vars s := by
  have hall : vars.filter (fun v => ({} : Directions).sees v.2) = vars :=
    List.filter_eq_self.2 fun _ _ => rfl
  have hfold : vars.map (fun v => (({} : Directions).fold v.1, v.2)) =
      vars.map fun v => (Text.lower v.1, v.2) := rfl
  rw [value?, Directions.nameOf_default, collect, hall, hfold, OrderedMap.findD,
    OrderedMap.find?_ofList_map, variableFor?]
  cases vars.reverse.find? fun v => s.name == Text.lower v.1 <;> rfl

theorem find?_layer (title : String) (d : Directions) (vars : Variables) (s : Setting) :
    (layer title d vars).find? s = vars.value? d s :=
  Layer.find?_ofSettings title (vars.value? d) s.mem_listed

theorem value?_collectAll (vars : List (String × Option String)) (s : Setting) :
    value? {} (collectAll {} [vars]) s = variableFor? vars s := by
  have hone : collectAll {} [vars] = OrderedMap.ofList (collect {} vars).entries := rfl
  rw [← value?_collect, value?, value?, OrderedMap.findD, OrderedMap.findD, hone,
    OrderedMap.find?_ofList_entries]

/-- The second way of defining settings is no way to define one: what a variable is called without a
beginning is its own name, and the names of settings are taken. -/
theorem find?_addOther (entries : OrderedMap String Datum) (name value : String) (s : Setting) :
    (addOther {} entries name value).find? s.name = entries.find? s.name := by
  unfold addOther
  split
  · next hother =>
    have hname : (s.name == name) = false := by
      have hall := (Bool.and_eq_true_iff.1 hother).2
      have hs := List.all_eq_true.1 hall s s.mem_listed
      rw [Directions.nameOf_default] at hs
      simpa using hs
    have hrest : afterFront? (({} : Directions).fold "") name = some name := by
      have hfold : ({} : Directions).fold "" = "" := by decide +kernel
      rw [hfold, afterFront?, if_pos (by simp)]
      simp
    -- Something may be entered, but under a name of which it is known that no setting has it.
    rw [hrest]
    exact OrderedMap.find?_insert_of_ne entries _ hname
  · rfl

theorem find?_dotenvEntries (vars : Variables) (s : Setting) :
    (dotenvEntries {} vars).find? s.name = vars.value? {} s := by
  -- The layer lists every setting once, so that it does not matter in which order it is read.
  have hstart : (OrderedMap.ofList (layer "" {} vars).entries).find? s.name = vars.value? {} s := by
    have hreverse : (layer "" {} vars).entries.reverse =
        (Layer.ofSettings "" Setting.listed.reverse (vars.value? {})).entries :=
      List.filterMap_reverse.symm
    rw [OrderedMap.find?_ofList, hreverse]
    exact Layer.find?_ofSettings "" _ (List.mem_reverse.2 s.mem_listed)
  rw [dotenvEntries, ← hstart]
  generalize OrderedMap.ofList (layer "" {} vars).entries = entries
  induction vars.entries generalizing entries with
  | nil => rfl
  | cons v rest ih =>
    rw [List.foldl_cons, ih]
    cases v.2 with
    | none => rfl
    | some value => exact find?_addOther entries v.1 value s

theorem find?_dotenvLayer (title : String) (vars : Variables) (s : Setting) :
    (dotenvLayer title {} vars).find? s = vars.value? {} s := by
  rw [← find?_dotenvEntries]
  unfold dotenvLayer Layer.find? OrderedMap.find?
  dsimp only
  induction (dotenvEntries {} vars).entries with
  | nil => rfl
  | cons e rest ih =>
    by_cases hname : s.name = e.1
    · rw [List.filter_cons, if_pos (by rw [← hname, Setting.ofName?_name]; rfl), List.lookup_cons,
        List.lookup_cons, hname, beq_self_eq_true]
    · rw [List.lookup_cons, beq_false_of_ne hname, List.filter_cons, ← ih]
      split
      · rw [List.lookup_cons, beq_false_of_ne hname]
      · rfl

end Variables

/-! ## Values given outright -/

theorem find?_givenLayer (title : String) (given : List (String × Datum)) (s : Setting) :
    (givenLayer title given).find? s = givenFor? given s := by
  -- What nobody asks for has no name of a setting.
  have hothers : (given.filter fun v => (Setting.ofName? (Text.lower v.1)).isNone &&
      !Directions.names.contains v.1).lookup s.name = none := by
    rw [List.lookup_eq_none_iff]
    intro v hv
    have hnone := (Bool.and_eq_true_iff.1 (List.mem_filter.1 hv).2).1
    rw [bne_iff_ne]
    intro hname
    rw [← hname, s.lower_name, s.ofName?_name] at hnone
    cases hnone
  have hsettings := Layer.find?_ofSettings title (givenFor? given) s.mem_listed
  unfold givenLayer Layer.find?
  rw [List.lookup_append, hothers, Option.or_none]
  exact hsettings

/-! ## The search without directions

There are a dozen directions, and each is asked for somewhere in the search. When none is given, the
answers are all the same, so that each part of the search can be replaced by what it then does. -/

namespace Directions

variable {given : List (String × Datum)}

theorem find?_of_undirected (h : Undirected given) (name : String)
    (hname : name ∈ names) :
    find? given name = none := by
  rw [find?, h name (List.mem_cons_of_mem _ hname)]

theorem ofGiven_of_undirected (h : Undirected given) : ofGiven given = .ok {} := by
  have hset : ∀ name ∈ names, isSet given name = false := fun name hname => by
    rw [isSet, find?_of_undirected h name hname]
    rfl
  rw [ofGiven, frontOf, frontOnNamesOf, nullTextOf,
    find?_of_undirected h frontName (by decide),
    find?_of_undirected h "_env_prefix_target" (by decide),
    find?_of_undirected h "_env_parse_none_str" (by decide),
    hset "_case_sensitive" (by decide), hset "_env_ignore_empty" (by decide)]
  rfl

theorem check_of_undirected (h : Undirected given) : check given = .ok () := by
  rw [check, checkDepth, checkFront,
    find?_of_undirected h "_env_nested_max_split" (by decide),
    find?_of_undirected h frontName (by decide)]
  rfl

theorem secretsOf_of_undirected (p : Place) (h : Undirected given) :
    secretsOf p given = .ok [] := by
  rw [secretsOf, find?_of_undirected h secretsName (by decide)]
  rfl

/-! ### The dotenv file -/

/-- The route to the dotenv file. -/
def dotenvRoute : Place.Route := ⟨false, [Place.dotenvName]⟩

theorem parts_dotenvName : Location.parts Place.dotenvName = [Place.dotenvName] := by
  rw [Location.parts, String.splitOn, if_neg (by decide)]
  -- None of the four characters is a slash, and behind them the name is at its end.
  iterate 4 rw [String.splitOnAux, if_neg (by decide +kernel), if_neg (by decide +kernel)]
  rw [String.splitOnAux, if_pos (by decide +kernel)]
  decide +kernel

theorem routeOf_dotenvName (p : Place) :
    routeOf p filesName (.text Place.dotenvName) = .ok dotenvRoute := by
  have hroute : Place.Route.ofPath Place.dotenvName = dotenvRoute := by
    rw [Place.Route.ofPath, parts_dotenvName]
    decide
  have hexpand : p.expand Place.dotenvName = .ok dotenvRoute := by
    rw [Place.expand, hroute]
    rfl
  exact hexpand

theorem lookup_files_dotenvName (p : Place) : p.files.lookup Place.dotenvName = p.dotenv := by
  cases hconfig : p.configFile <;> cases hdotenv : p.dotenv <;>
    simp [Place.files, hconfig, hdotenv, Place.dotenvName, Place.configName, List.lookup_cons]

theorem lookUp_dotenvRoute (p : Place) :
    p.lookUp dotenvRoute = .ok (p.dotenv.elim .nothing .file) := by
  have hlookUp : p.lookUp dotenvRoute =
      .ok ((p.files.lookup Place.dotenvName).elim .nothing .file) := by
    rw [Place.lookUp, if_neg (by decide +kernel), if_neg (by decide +kernel)]
    rfl
  rw [hlookUp, lookup_files_dotenvName]

theorem result_tell (p : Place) (event : String) : (tell p event).result = .ok () := by
  unfold tell
  split <;> rfl

theorem result_readText {given : List (String × Datum)} (h : Undirected given)
    (path text : String) : (readText given path text).result =
      .ok (OrderedMap.ofList ((Dotenv.statements (Text.unifyLineEnds text.toList)).filterMap
        Dotenv.Statement.entry?)).entries := by
  have hencoding : encodingOf given = .ok .utf8 := by
    rw [encodingOf, find?_of_undirected h _ (by decide)]
  rw [readText, hencoding]
  rfl

theorem result_readFile (p : Place) {given : List (String × Datum)} (h : Undirected given) :
    (readFile p given (.text Place.dotenvName)).result = .ok p.dotenvVariables := by
  have hsearch : checkSearch given dotenvRoute = .ok () := by
    rw [checkSearch, find?_of_undirected h _ (by decide)]
  rw [readFile, routeOf_dotenvName, Run.result_bind_of_ok rfl, lookUp_dotenvRoute,
    Run.result_bind_of_ok rfl, Place.dotenvVariables]
  cases p.dotenv with
  | some text => exact result_readText h dotenvRoute.text text
  | none =>
    dsimp only [Option.elim]
    rw [hsearch, Run.result_bind_of_ok rfl, Run.result_bind_of_ok (result_tell p _)]
    rfl

theorem result_readFiles (p : Place) {given : List (String × Datum)} (h : Undirected given) :
    (readFiles p given).result = .ok [p.dotenvVariables] := by
  have hone (path : Datum) : [path].mapM (readFile p given) =
      readFile p given path >>= fun vars => pure [vars] := rfl
  rw [readFiles, filesOf, h filesName (by decide), Run.result_bind_of_ok rfl, hone,
    Run.result_bind_of_ok (result_readFile p h)]
  rfl

end Directions

theorem Arguments.layerOf_of_undirected (title : String) {given : List (String × Datum)}
    (h : Undirected given) : layerOf title given = .ok none := by
  rw [layerOf, Directions.find?_of_undirected h _ (by decide)]

namespace Place

/-- What the configuration file of a place says, where its sections are tables. -/
theorem exists_configLayer (p : Place) (title : String)
    (h : ∀ content ∈ p.configFile, HasSections content) :
    ∃ l, p.configFile.elim (.ok ⟨title, []⟩) (configLayer title) = .ok l ∧
      ∀ s, l.find? s = p.configFile.map fun content => configured content s := by
  cases hconfig : p.configFile with
  | none => exact ⟨_, rfl, fun _ => rfl⟩
  | some content =>
    refine ⟨_, configLayer_eq title (h content hconfig), fun s => ?_⟩
    exact Layer.find?_ofSettings title _ s.mem_configOrder

/-- The search comes to an end, and what it finds is the value of the first source that has one.

Six layers come out of it. Two of them say nothing: that of files with secrets, since no directory
with secrets is named, and that of the defaults, which are not looked for in a layer. -/
theorem winner_search (p : Place) {given : List (String × Datum)} (h : Undirected given)
    (hconfig : ∀ content ∈ p.configFile, HasSections content) :
    ∃ layers, (p.layers given).result = .ok layers ∧ winner layers = p.raw given := by
  obtain ⟨config, hlayer, hsays⟩ := p.exists_configLayer ({} : Titles).config hconfig
  have hnames : Directions.checkNames given = .ok () := by
    rw [Directions.checkNames, h Directions.forbiddenName (by decide)]
    rfl
  have hsearch : (p.search given).result = .ok
      [givenLayer ({} : Titles).given given,
        Variables.dotenvLayer ({} : Titles).dotenv {} (Variables.collectAll {} [p.dotenvVariables]),
        Variables.layer ({} : Titles).environment {}
          (Variables.collect {} (p.environment.map fun v => (v.1, some v.2))),
        config, Directions.secretLayer ({} : Titles).secrets {} [],
        ⟨({} : Titles).default, []⟩] := by
    unfold search
    dsimp only
    rw [Directions.check_of_undirected h, Run.result_bind_of_ok rfl,
      Run.result_bind_of_ok (Directions.result_readFiles p h), Arguments.layerOf_of_undirected _ h,
      Run.result_bind_of_ok rfl, Directions.ofGiven_of_undirected h, Run.result_bind_of_ok rfl,
      hlayer, Run.result_bind_of_ok rfl, Directions.secretsOf_of_undirected p h,
      Run.result_bind_of_ok rfl, Run.result_bind_of_ok (Directions.result_tell p _)]
    rfl
  have hlayers : (p.layers given).result = (p.search given).result := by
    rw [layers, hnames, Run.result_bind_of_ok rfl, Directions.find?_of_undirected h _ (by decide)]
  -- From here on nothing is searched any more, and the layers can be asked one by one.
  refine ⟨_, hlayers.trans hsearch, funext fun s => ?_⟩
  have hsecrets : (Directions.secretLayer ({} : Titles).secrets {} []).find? s = none :=
    Layer.find?_ofSettings _ _ s.mem_listed
  have hdefault : (⟨({} : Titles).default, []⟩ : Layer).find? s = none := rfl
  rw [winner, firstDefined, raw]
  simp only [List.findSome?_cons, List.findSome?_nil, find?_givenLayer,
    Variables.find?_dotenvLayer, Variables.value?_collectAll, Variables.find?_layer,
    Variables.value?_collect, hsays, hsecrets, hdefault, Origin.all, valueFrom]

end Place

end Dicebox
