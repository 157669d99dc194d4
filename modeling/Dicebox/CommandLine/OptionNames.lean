import Dicebox.Command.Options
import Dicebox.Fault

/-!
# Names of options

Not every name can be that of an option. A set of options is described by entries of the same form
as the options themselves: some of them say what the set is made of (`baseNames`, `tableName`), a
few only say something about it (`remarkNames`), and what can be done with a set has names as well
(`operationNames`). Any other name that begins with an underscore is kept for what is hidden.

`OptionSpec.declared` gives the options among some declarations, or the first objection to a name.
Objections are ordered by their rule first, and only then by the order of the declarations.
`declared_eq_self` says that ordinary names are left alone.
-/

set_option autoImplicit false

namespace Dicebox.OptionSpec

/-- Names of remarks on a set of options. What is declared under them is passed over. -/
def remarkNames : List String := ["__doc__", "__module__", "__config__"]

/-- Names of what a set of options is built on. -/
def baseNames : List String := ["__validators__", "__cls_kwargs__", "__base__"]

/-- The name of what a set of options is made of. -/
def tableName : String := "model_config"

/-- The name of a set of options itself. -/
def ownName : String := "__qualname__"

/-- Names of what can be done with a set of options. -/
def operationNames : List String :=
  ["model_dump", "model_dump_json", "model_validate", "model_validate_json",
    "model_validate_strings"]

/-- Whether a name is that of something hidden. -/
def isHidden (name : String) : Bool :=
  name.toList.head? == some '_' && !remarkNames.contains name && name != ownName

/-- The rules for names in their order: which names each of them is about, and its objection. -/
def nameRules : List ((String → Bool) × (String → Fault)) :=
  [(baseNames.contains, .structuralOption), ((· == tableName), .structuralOption),
    (isHidden, .hiddenOption),
    ((· == ownName), .structuralOption), (operationNames.contains, .takenOption)]

/-- The first objection to the names of some declarations. -/
def nameFault? (declarations : List OptionSpec) : Option Fault :=
  nameRules.findSome? fun (concerns, fault) =>
    (declarations.find? fun o => concerns o.name).map fun o => fault o.name

/-- Whether a declaration is one of an option. -/
def isOption (o : OptionSpec) : Bool := !remarkNames.contains o.name

/-- The options among some declarations, unless one of the names is no name for an option. -/
def declared (declarations : List OptionSpec) : Except Fault (List OptionSpec) :=
  match nameFault? declarations with
  | some fault => .error fault
  | none => .ok (declarations.filter isOption)

/-- Declarations to whose names there is no objection, and none of which is a remark, are all of
them options. -/
theorem declared_eq_self {declarations : List OptionSpec} (h : nameFault? declarations = none)
    (hd : ∀ o ∈ declarations, o.isOption) : declared declarations = .ok declarations := by
  simp only [declared, h, List.filter_eq_self.2 hd]

end Dicebox.OptionSpec
