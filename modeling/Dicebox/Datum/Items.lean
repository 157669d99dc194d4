import Dicebox.Fault

/-!
# What data hold

Where several data are expected they may come in a list, but also as the characters of a text or the
keys of a table (`Datum.items`). Nothing else holds anything. Where two are expected it has to be
two (`Datum.pair`).
-/

set_option autoImplicit false

namespace Dicebox.Datum

/-- What a datum holds, in order. -/
def items : Datum → Except Fault (List Datum)
  | .list items => .ok items
  | .text s => .ok (s.toList.map fun c => .text (String.singleton c))
  | .table entries => .ok (entries.map fun e => .text e.1)
  | d => .error (.notCollection d.kind)

/-- The two data that a datum holds. -/
def pair (d : Datum) : Except Fault (Datum × Datum) := do
  match ← d.items with
  | [a, b] => return (a, b)
  | others => .error (.notPair others.length)

/-- The entries of a table. -/
def fields : Datum → Except Fault (List (String × Datum))
  | .table entries => .ok entries
  | d => .error (.notFields d.kind)

end Dicebox.Datum
