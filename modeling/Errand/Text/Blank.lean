/-!
# Errand — blank text

The white space of Unicode (the property `White_Space`), and trimming by it.
A text is **blank** when it holds nothing else.

* `isSpace`  — the property, as a table of ranges.
* `trim`     — the text without the white space at its two ends.
* `isBlank`  — nothing is left after trimming.
-/

namespace Errand.Text

/-- The ranges of the Unicode property `White_Space`. -/
def spaceRanges : List (Nat × Nat) :=
  [(0x09, 0x0D), (0x20, 0x20), (0x85, 0x85), (0xA0, 0xA0), (0x1680, 0x1680),
   (0x2000, 0x200A), (0x2028, 0x2029), (0x202F, 0x202F), (0x205F, 0x205F),
   (0x3000, 0x3000)]

/-- Unicode white space. -/
def isSpace (c : Char) : Bool :=
  spaceRanges.any fun (low, high) => low ≤ c.toNat && c.toNat ≤ high

/-- The characters after the leading white space. -/
def trimFront (cs : List Char) : List Char := cs.dropWhile isSpace

/-- The characters without the white space at both ends. -/
def trimChars (cs : List Char) : List Char :=
  (trimFront (trimFront cs).reverse).reverse

/-- The text without the white space at both ends. -/
def trim (s : String) : String := String.ofList (trimChars s.toList)

/-- The text holds white space only. -/
def isBlank (s : String) : Bool := s.toList.all isSpace

/-- The trimmed text, unless it is empty. -/
def nonBlank? (s : String) : Option String :=
  let t := trim s
  if t.isEmpty then none else some t

/-- `sub` occurs in `s` as a run of neighbouring characters. -/
def contains (s sub : List Char) : Bool :=
  match s with
  | [] => sub.isEmpty
  | c :: rest => sub.isPrefixOf (c :: rest) || contains rest sub

/-- At most the first `n` characters. -/
def truncate (n : Nat) (s : String) : String := String.ofList (s.toList.take n)

/-- The pieces of `cs` between the characters that satisfy `p`. -/
def splitOn (p : Char → Bool) (cs : List Char) : List (List Char) :=
  match cs with
  | [] => [[]]
  | c :: rest =>
    if p c then [] :: splitOn p rest
    else match splitOn p rest with
      | [] => [[c]]
      | piece :: pieces => (c :: piece) :: pieces

end Errand.Text
