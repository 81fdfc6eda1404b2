import Errand.Text.Blank

/-!
# Errand — ranges of code points

Sets of code points as ranges, and their notation: hexadecimal numbers with
white space between them, `A-B` for all from one to another, and `A:B` for
every other one of them.

* `readRanges` — the ranges that a text writes down.
* `inRanges`   — membership.
-/

namespace Errand.Text

/-- The value of a hexadecimal digit. -/
def hexValue (c : Char) : Nat :=
  if c.isDigit then c.toNat - '0'.toNat else c.toNat - 'A'.toNat + 10

/-- The value of some hexadecimal digits. -/
def hexNumber (cs : List Char) : Nat := cs.foldl (fun n c => n * 16 + hexValue c) 0

/-- The ranges of one piece of the notation. -/
def readPiece (cs : List Char) : List (Nat × Nat) :=
  match splitOn (· = '-') cs, splitOn (· = ':') cs with
  | [low, high], _ => [(hexNumber low, hexNumber high)]
  | _, [low, high] =>
    let first := hexNumber low
    (List.range ((hexNumber high - first) / 2 + 1)).map fun i => (first + 2 * i, first + 2 * i)
  | _, _ => [(hexNumber cs, hexNumber cs)]

/-- The ranges that a text writes down. -/
def readRanges (text : String) : List (Nat × Nat) :=
  ((splitOn isSpace text.toList).filter fun piece => !piece.isEmpty).flatMap readPiece

/-- A code point lies in one of the ranges. -/
def inRanges (rs : List (Nat × Nat)) (code : Nat) : Bool :=
  rs.any fun (low, high) => low ≤ code && code ≤ high

end Errand.Text
