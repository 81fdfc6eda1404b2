import Errand.Pattern.CharSet

/-!
# Errand — sets of characters as bytes

The encodings of the characters of a range are the texts of a few rows of byte
ranges, in which every byte may be chosen freely.

* `encoded`    — the bytes of a code point.
* `byteRows`   — the rows of byte ranges for a set, in order.
-/

namespace Errand.Pattern

/-- The bytes of a code point. -/
def encoded (code : Nat) : List Nat :=
  if code ≤ 0x7F then [code]
  else if code ≤ 0x7FF then [0xC0 + code / 0x40, 0x80 + code % 0x40]
  else if code ≤ 0xFFFF then
    [0xE0 + code / 0x1000, 0x80 + code / 0x40 % 0x40, 0x80 + code % 0x40]
  else
    [0xF0 + code / 0x40000, 0x80 + code / 0x1000 % 0x40, 0x80 + code / 0x40 % 0x40,
      0x80 + code % 0x40]

/-- Rows of byte ranges that together stand for all encodings between two of some length. -/
def between : Nat → List Nat → List Nat → List (List (Nat × Nat))
  | n + 1, a :: low, b :: high =>
    if a = b then (between n low high).map ((a, a) :: ·)
    else
      let whole := low.map fun _ => (0x80, 0xBF)
      let fromStart := low.all (· = 0x80)
      let toEnd := high.all (· = 0xBF)
      let first := if fromStart then [] else
        (between n low (low.map fun _ => 0xBF)).map ((a, a) :: ·)
      let last := if toEnd then [] else
        (between n (high.map fun _ => 0x80) high).map ((b, b) :: ·)
      let start := if fromStart then a else a + 1
      let stop := if toEnd then b + 1 else b
      first ++ (if start < stop then [(start, stop - 1) :: whole] else []) ++ last
  | _, _, _ => [[]]

/-- The stretches of code points whose encodings have one length, surrogates left out. -/
def stretches : List (Nat × Nat) :=
  [(0, 0x7F), (0x80, 0x7FF), (0x800, 0xD7FF), (0xE000, 0xFFFF), (0x10000, 0x10FFFF)]

/-- Rows of byte ranges for the code points of a range. -/
def rangeRows (r : Nat × Nat) : List (List (Nat × Nat)) :=
  stretches.flatMap fun s =>
    let low := max r.1 s.1
    let high := min r.2 s.2
    if low ≤ high then between 4 (encoded low) (encoded high) else []

/-- Rows of byte ranges for the characters of a set. -/
def byteRows (s : CharSet) : List (List (Nat × Nat)) := s.ranges.flatMap rangeRows

end Errand.Pattern
