/-!
# Errand — binary64 numbers, exactly

A `Double` is an IEEE-754 binary64 number, kept as its 64 bits and read as an
exact value: every finite one is a whole multiple of `2⁻¹⁰⁷⁴`, so its
magnitude is the natural number `scaled` over `2¹⁰⁷⁴`. All arithmetic here is
done on natural numbers and rounded once at the end, to the nearest
representable value and to the even one on a tie.

* `Double.scaled`    — the magnitude as a multiple of `2⁻¹⁰⁷⁴`.
* `Double.ofRatio`   — the double nearest to a quotient of naturals.
* `Double.mul`, `Double.div` — exact product and quotient, rounded once.
* `Double.toInt?`    — the integer a double equals, if it equals one.
-/

namespace Errand.Number

-- ---------------------------------------------------------------------------
-- Rounding
-- ---------------------------------------------------------------------------

/-- The whole number nearest to `num / den`; a tie goes to the even neighbour. -/
def roundDivEven (num den : Nat) : Nat :=
  let q := num / den
  let twice := 2 * (num % den)
  if twice < den then q
  else if den < twice then q + 1
  else if q % 2 = 0 then q else q + 1

-- ---------------------------------------------------------------------------
-- The number and its parts
-- ---------------------------------------------------------------------------

/-- An IEEE-754 binary64 number, by its bits. -/
structure Double where
  bits : UInt64
  deriving DecidableEq, Inhabited

namespace Double

/-- How many times the smallest positive double fits into 1. -/
def unitsPerOne : Nat := Nat.pow 2 1074

/-- The bits below the sign; larger means larger in magnitude. -/
def magnitude (d : Double) : Nat := d.bits.toNat % Nat.pow 2 63

/-- Whether the sign bit is set; it is for `-0.0` too. -/
def isNegative (d : Double) : Bool := Nat.pow 2 63 ≤ d.bits.toNat

/-- The exponent field, from 0 (zero and subnormal) to 2047 (infinite and NaN). -/
def biasedExponent (d : Double) : Nat := d.magnitude / Nat.pow 2 52

/-- Neither infinite nor NaN. -/
def isFinite (d : Double) : Bool := d.biasedExponent < 2047

/-- The significand with its leading bit, if it has one. -/
def significand (d : Double) : Nat :=
  if d.biasedExponent = 0 then d.magnitude else Nat.pow 2 52 + d.magnitude % Nat.pow 2 52

/-- The power of two that the significand counts, above `2⁻¹⁰⁷⁴`. -/
def shift (d : Double) : Nat := d.biasedExponent - 1

/-- The magnitude of a finite double as a multiple of `2⁻¹⁰⁷⁴`. -/
def scaled (d : Double) : Nat := d.significand * Nat.pow 2 d.shift

/-- Zero of either sign. -/
def isZero (d : Double) : Bool := d.scaled = 0

/-- Below zero; `-0.0` is not. -/
def isBelowZero (d : Double) : Bool := d.isNegative && !d.isZero

-- ---------------------------------------------------------------------------
-- Building doubles
-- ---------------------------------------------------------------------------

/-- The double with this sign and these bits below it. -/
def ofMagnitude (negative : Bool) (magnitude : Nat) : Double :=
  ⟨UInt64.ofNat (if negative then Nat.pow 2 63 + magnitude else magnitude)⟩

/-- The bits below the sign of infinity. -/
def infinity : Nat := 2047 * Nat.pow 2 52

/--
The bits of the double nearest to `num / den`, infinity if it is out of range.
With `shift` the number of bits that do not fit the significand, the rounded
significand is added to the exponent field, so a carry moves to the next
binade by itself.
-/
def nearestMagnitude (num den : Nat) : Nat :=
  let units := num * unitsPerOne
  let shift := (units / den).log2 + 1 - 53
  min infinity (shift * Nat.pow 2 52 + roundDivEven units (den * Nat.pow 2 shift))

/-- The double nearest to `± num / den`. -/
def ofRatio (negative : Bool) (num den : Nat) : Double :=
  ofMagnitude negative (if num = 0 then 0 else nearestMagnitude num den)

/-- The double nearest to a whole number. -/
def ofInt (n : Int) : Double := ofRatio (n < 0) n.natAbs 1

/-- The product, rounded once. -/
def mul (a b : Double) : Double :=
  ofRatio (a.isNegative != b.isNegative) (a.scaled * b.scaled) (unitsPerOne * unitsPerOne)

/-- The quotient by a number other than zero, rounded once. -/
def div (a b : Double) : Double :=
  ofRatio (a.isNegative != b.isNegative) a.scaled b.scaled

/-- The same magnitude with the other sign. -/
def neg (d : Double) : Double := ofMagnitude (!d.isNegative) d.magnitude

-- ---------------------------------------------------------------------------
-- Whole values
-- ---------------------------------------------------------------------------

/-- The double has no fraction. -/
def isWhole (d : Double) : Bool := d.isFinite && d.scaled % unitsPerOne = 0

/-- The integer that a double equals, if it equals one. -/
def toInt? (d : Double) : Option Int :=
  if d.isWhole then
    let n : Int := (d.scaled / unitsPerOne : Nat)
    some (if d.isNegative then -n else n)
  else none

/-- The sixteen lower-case hexadecimal digits of the bits. -/
def toHex (d : Double) : String :=
  let digits := Nat.toDigits 16 d.bits.toNat
  String.ofList (List.replicate (16 - digits.length) '0' ++ digits)

end Double

end Errand.Number
