import Errand.Text.Ranges

/-!
# Errand — rows of property tables

A row of a table of properties holds the names of a property, without case,
spaces, dashes and underscores, and its code points in the notation of ranges.

* `PropertyRow` — a row.
* `rowNamed`    — the code points of the row with a name.
-/

namespace Errand.Pattern

/-- A property: its names, and its code points as text. -/
abbrev PropertyRow := List String × String

/-- The code points of the first row with a name. -/
def rowNamed (rows : List PropertyRow) (name : String) : Option (List (Nat × Nat)) :=
  (rows.find? fun row => row.1.contains name).map fun row => Text.readRanges row.2

end Errand.Pattern
