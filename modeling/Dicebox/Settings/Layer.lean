import Dicebox.Settings.Basic

/-!
# Layers — who says what a setting is

Settings come from several sources, one above the other. A `Layer` is what one of them says: values
by name. A setting is what the first layer says that has its name (`firstDefined`), and a layer that
defines it hides all those below, even if its value turns out to be unreadable. What no layer
defines has its default (`winner`).
-/

set_option autoImplicit false

namespace Dicebox

/-- What a source of settings says. The title is the name of the source in the log. -/
structure Layer where
  title : String
  entries : List (String × Datum) := []
  deriving Inhabited

namespace Layer

/-- What a layer says about a setting. -/
def find? (l : Layer) (s : Setting) : Option Datum := l.entries.lookup s.name

/-- The layer of what is known about settings. -/
def ofSettings (title : String) (order : List Setting) (value? : Setting → Option Datum) : Layer :=
  ⟨title, order.filterMap fun s => (value? s).map fun d => (s.name, d)⟩

/-- Such a layer says what is known. -/
theorem find?_ofSettings (title : String) {order : List Setting} (value? : Setting → Option Datum)
    {s : Setting} (h : s ∈ order) : (ofSettings title order value?).find? s = value? s := by
  simp only [find?, ofSettings]
  induction order with
  | nil => simp at h
  | cons t rest ih =>
    by_cases hst : s = t
    · subst hst
      cases hv : value? s with
      | some d => simp [hv]
      | none =>
        simp only [List.filterMap_cons, hv, Option.map_none]
        by_cases hr : s ∈ rest
        · rw [ih hr, hv]
        · refine List.lookup_eq_none_iff.2 fun e he => ?_
          obtain ⟨u, hu, hd⟩ := List.mem_filterMap.1 he
          cases hv' : value? u with
          | none => simp [hv'] at hd
          | some d =>
            simp only [hv', Option.map_some, Option.some.injEq] at hd
            subst hd
            have hne : s.name ≠ u.name := fun hn => hr (Setting.name_injective s u hn ▸ hu)
            simpa using hne
    · have hr : s ∈ rest := by simpa [hst] using h
      have hb : (s.name == t.name) = false :=
        beq_false_of_ne fun hn => hst (Setting.name_injective s t hn)
      cases hv : value? t with
      | none => simpa only [List.filterMap_cons, hv, Option.map_none] using ih hr
      | some d => simp only [List.filterMap_cons, hv, Option.map_some, List.lookup_cons, hb, ih hr]

end Layer

/-- The first definition of a setting in some layers. -/
def firstDefined (layers : List Layer) (s : Setting) : Option Datum :=
  layers.findSome? (·.find? s)

/-- What the winning layer says, or the default. -/
def winner (layers : List Layer) (s : Setting) : Datum := (firstDefined layers s).getD s.default

end Dicebox
