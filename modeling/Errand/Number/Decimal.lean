import Errand.Number.Double

/-!
# Errand — decimal text of binary64 numbers

The shortest decimal that reads back as a given double, and the layouts in
which this program writes it.

* `Decimal.shortest`  — fewest digits inside the rounding interval, the
  nearest of those to the value.
* `Decimal.plain`     — every digit written out, no exponent.
* `Decimal.compact`   — positional near 1, with an exponent elsewhere.
* `fixedPlaces`       — a given number of places after the point.
* `scientificPlaces`  — a given number of places after the first digit, with an exponent.
* `significantDigits` — a given number of digits, with an exponent where that is shorter.
-/

namespace Errand.Number

/-- The number `digits · 10 ^ exponent`. -/
structure Decimal where
  digits : Nat
  exponent : Int
  deriving DecidableEq, Inhabited

namespace Decimal

-- ---------------------------------------------------------------------------
-- The shortest decimal
-- ---------------------------------------------------------------------------

/-- How many decimal digits a natural number has; one for zero. -/
def digitCount (n : Nat) : Nat := (Nat.toDigits 10 n).length

/--
The power of ten of a positive double's leading digit. A value below 1 is the
reciprocal of a number that is no power of ten, so counting the digits of the
whole part of that reciprocal gives the power.
-/
def leadingPower (scaled : Nat) : Int :=
  let whole := scaled / Double.unitsPerOne
  if whole = 0 then -(digitCount (Double.unitsPerOne / scaled) : Int)
  else (digitCount whole : Int) - 1

/-- The factors that bring `a · 10 ^ p` to whole numbers on either side of a comparison. -/
def tenPower (p : Int) : Nat × Nat :=
  if 0 ≤ p then (Nat.pow 10 p.toNat, 1) else (1, Nat.pow 10 (-p).toNat)

/--
The interval of reals that round to a positive finite double, in quarters of
`2⁻¹⁰⁷⁴`: half a step up, and half a step down, which is a quarter of a step
where the binade below is finer. The ends belong to it iff the significand is
even.
-/
structure Interval where
  low : Nat
  high : Nat
  closed : Bool

/-- The rounding interval of a positive finite double. -/
def interval (d : Double) : Interval :=
  let step := Nat.pow 2 d.shift
  let below := if d.significand = Nat.pow 2 52 ∧ 0 < d.shift then step else 2 * step
  ⟨4 * d.scaled - below, 4 * d.scaled + 2 * step, d.significand % 2 = 0⟩

/-- `candidate · 10 ^ p` rounds to the double with this interval. -/
def Interval.contains (i : Interval) (candidate : Nat) (p : Int) : Bool :=
  let (up, down) := tenPower p
  let value := candidate * up * (4 * Double.unitsPerOne)
  if i.closed then i.low * down ≤ value && value ≤ i.high * down
  else i.low * down < value && value < i.high * down

/--
The best decimal of a positive double on the grid of multiples of `10 ^ p`:
of its two neighbours there, the nearer one that rounds back.
-/
def onGrid (d : Double) (p : Int) : Option Nat :=
  let (up, down) := tenPower p
  let num := d.scaled * down
  let den := Double.unitsPerOne * up
  let below := num / den
  let nearest := roundDivEven num den
  let other := if nearest = below then below + 1 else below
  if (interval d).contains nearest p then some nearest
  else if (interval d).contains other p then some other
  else none

/-- The same number with no zero at the end of its digits. -/
def normalize (fuel : Nat) (x : Decimal) : Decimal :=
  match fuel with
  | 0 => x
  | fuel + 1 =>
    if x.digits ≠ 0 ∧ x.digits % 10 = 0 then
      normalize fuel ⟨x.digits / 10, x.exponent + 1⟩
    else x

/--
The decimal with the fewest digits that reads back as the magnitude of a
finite double, and of those the nearest. Seventeen digits always suffice.
-/
def shortest (d : Double) : Decimal :=
  if d.scaled = 0 then ⟨0, 0⟩
  else
    let lead := leadingPower d.scaled
    let found := (List.range 17).findSome? fun (i : Nat) =>
      let p : Int := lead - (i : Int)
      (onGrid d p).map fun digits => normalize 20 ⟨digits, p⟩
    found.getD ⟨0, 0⟩

-- ---------------------------------------------------------------------------
-- Layouts
-- ---------------------------------------------------------------------------

/-- The decimal digits of a natural number. -/
def digitText (n : Nat) : List Char := Nat.toDigits 10 n

/-- The power of ten of the first digit. -/
def leading (x : Decimal) : Int := (digitCount x.digits : Int) - 1 + x.exponent

/-- The whole part and the digits after the point, all written out. -/
def positional (x : Decimal) : List Char × List Char :=
  let text := digitText x.digits
  if 0 ≤ x.exponent then (text ++ List.replicate x.exponent.toNat '0', [])
  else
    let places := (-x.exponent).toNat
    if places < text.length then
      (text.take (text.length - places), text.drop (text.length - places))
    else (['0'], List.replicate (places - text.length) '0' ++ text)

/-- Every digit written out and no exponent; a whole number has no point. -/
def plain (negative : Bool) (x : Decimal) : String :=
  let (whole, fraction) := x.positional
  let sign := if negative then ['-'] else []
  String.ofList (sign ++ whole ++ (if fraction.isEmpty then [] else '.' :: fraction))

/-- Where positional layout ends, by the power of ten of the first digit. -/
structure CompactLayout where
  lowest : Int
  highest : Int

/-- The layout of numbers inside structured text: positional from `10⁻⁵` up to `10¹⁶`. -/
def structuredText : CompactLayout := ⟨-5, 15⟩

/-- One digit, a point if more follow, and a signed exponent. -/
def scientific (x : Decimal) : List Char :=
  let text := digitText x.digits
  let power := x.leading
  let exponent := (if power < 0 then '-' else '+') :: digitText power.natAbs
  let rest := if text.length ≤ 1 then [] else '.' :: text.drop 1
  text.take 1 ++ rest ++ 'e' :: exponent

/-- Positional near 1, where a whole number keeps `.0`; with an exponent elsewhere. -/
def compact (layout : CompactLayout) (negative : Bool) (x : Decimal) : String :=
  let sign := if negative then ['-'] else []
  let inside := x.digits = 0 ∨ (layout.lowest ≤ x.leading ∧ x.leading ≤ layout.highest)
  let body :=
    if inside then
      let (whole, fraction) := x.positional
      whole ++ '.' :: (if fraction.isEmpty then ['0'] else fraction)
    else x.scientific
  String.ofList (sign ++ body)

end Decimal

namespace Double

/-- Every digit written out, as few as read back. -/
def plainText (d : Double) : String := (Decimal.shortest d).plain d.isNegative

/-- The text of a double inside structured text. -/
def compactText (d : Double) : String :=
  (Decimal.shortest d).compact Decimal.structuredText d.isNegative

/-- The exact value rounded to `places` digits after the point, a tie to the even digit. -/
def fixedPlaces (places : Nat) (d : Double) : String :=
  let units := roundDivEven (d.scaled * Nat.pow 10 places) unitsPerOne
  let fraction := Nat.toDigits 10 (units % Nat.pow 10 places)
  let padded := List.replicate (places - fraction.length) '0' ++ fraction
  let sign := if d.isNegative then ['-'] else []
  let tail := if places = 0 then [] else '.' :: padded
  String.ofList (sign ++ Nat.toDigits 10 (units / Nat.pow 10 places) ++ tail)

/-- The digits of a positive double rounded to `places` after the first, a tie to the even digit,
and the power of ten of the first one. -/
def roundedDigits (places : Nat) (d : Double) : Nat × Int :=
  let lead := Decimal.leadingPower d.scaled
  let (up, down) := Decimal.tenPower (lead - (places : Int))
  let n := roundDivEven (d.scaled * down) (unitsPerOne * up)
  if n = Nat.pow 10 (places + 1) then (n / 10, lead + 1) else (n, lead)

/-- One digit, a given number of them after the point, and an exponent of two digits or more. -/
def scientificPlaces (places : Nat) (d : Double) : String :=
  let (n, lead) := if d.scaled = 0 then (0, 0) else d.roundedDigits places
  let digits := Nat.toDigits 10 n
  let digits := digits ++ List.replicate (places + 1 - digits.length) '0'
  let power := Nat.toDigits 10 lead.natAbs
  let exponent := (if lead < 0 then '-' else '+') ::
    (List.replicate (2 - power.length) '0' ++ power)
  let sign := if d.isNegative then ['-'] else []
  let tail := if places = 0 then [] else '.' :: digits.drop 1
  String.ofList (sign ++ digits.take 1 ++ tail ++ 'e' :: exponent)

/-- A fraction without the zeros at its end, and without its point if nothing else is left. -/
def withoutFinalZeros (text : List Char) : List Char :=
  if text.contains '.' then
    match text.reverse.dropWhile (· = '0') with
    | '.' :: rest => rest.reverse
    | rest => rest.reverse
  else text

/-- A given number of digits without zeros at the end of a fraction: positional from `10⁻⁴` up to
where the digits end, with an exponent elsewhere. -/
def significantDigits (count : Nat) (d : Double) : String :=
  let count := max count 1
  let lead := if d.scaled = 0 then 0 else (d.roundedDigits (count - 1)).2
  if -4 ≤ lead ∧ lead < count then
    String.ofList (withoutFinalZeros (d.fixedPlaces ((count : Int) - 1 - lead).toNat).toList)
  else
    let (digits, exponent) := (d.scientificPlaces (count - 1)).toList.span (· ≠ 'e')
    String.ofList (withoutFinalZeros digits ++ exponent)

end Double

end Errand.Number
