import Errand.Number.Double

/-!
# Errand — arithmetic on binary64 numbers

The operations on doubles with infinities and with what is no number among
them: sums, products and quotients as the processor rounds them, remainders
exactly, and the two orders in which doubles are compared.

* `Double.plus`, `minus`, `times`, `dividedBy`, `toThe` — the operations.
* `Double.remainder`, `wholeQuotient`  — division with a remainder.
* `Double.orderKey`  — the total order, which tells the two zeros apart.
* `Double.units?`    — the signed value as a multiple of `2⁻¹⁰⁷⁴`.
-/

namespace Errand.Number.Double

/-- What is no number. -/
def notANumber : Double := ofMagnitude false (infinity + Nat.pow 2 51)

/-- The bits stand for no number. -/
def isNaN (d : Double) : Bool := infinity < d.magnitude

/-- Infinity of either sign. -/
def isInfinite (d : Double) : Bool := d.magnitude = infinity

/-- The number as the processor holds it. -/
def toFloat (d : Double) : Float := Float.ofBits d.bits

/-- The number that the processor holds. -/
def ofFloat (f : Float) : Double := ⟨f.toBits⟩

/-- The sum. -/
def plus (a b : Double) : Double := ofFloat (a.toFloat + b.toFloat)

/-- The difference. -/
def minus (a b : Double) : Double := ofFloat (a.toFloat - b.toFloat)

/-- The product. -/
def times (a b : Double) : Double := ofFloat (a.toFloat * b.toFloat)

/-- The quotient; by zero it is infinite, and zero by zero is no number. -/
def dividedBy (a b : Double) : Double := ofFloat (a.toFloat / b.toFloat)

/-- The power. -/
def toThe (a b : Double) : Double := ofFloat (a.toFloat.pow b.toFloat)

/-- The product of a number and a power of another, by squaring, with some fuel. -/
def timesPower (fuel : Nat) (product base : Double) (n : Nat) : Double :=
  match fuel with
  | 0 => product
  | fuel + 1 =>
    let product := if n % 2 = 1 then product.times base else product
    if n ≤ 1 then product else timesPower fuel product (base.times base) (n / 2)

/-- The power with a whole exponent, rounded at every step of squaring. -/
def toTheWhole (a : Double) (n : Int) : Double :=
  let power := timesPower n.natAbs (ofInt 1) a n.natAbs
  if n < 0 then (ofInt 1).dividedBy power else power

/-- The nearest whole number, a half away from zero. -/
def rounded (d : Double) : Double := ofFloat d.toFloat.round

/-- The whole part. -/
def truncated (d : Double) : Double :=
  if d.isFinite then ofRatio d.isNegative (d.scaled / unitsPerOne) 1 else d

/-- The remainder of dividing, which has the sign of the first number. -/
def remainder (a b : Double) : Double :=
  if a.isNaN ∨ b.isNaN ∨ a.isInfinite ∨ b.isZero then notANumber
  else if b.isInfinite then a
  else ofRatio a.isNegative (a.scaled % b.scaled) unitsPerOne

/-- The whole quotient that leaves a remainder of zero or more. -/
def wholeQuotient (a b : Double) : Double :=
  let q := (a.dividedBy b).truncated
  if (a.remainder b).isBelowZero then
    if b.isNegative then q.plus (ofInt 1) else q.minus (ofInt 1)
  else q

/-- The magnitude with a positive sign. -/
def absolute (d : Double) : Double := ofMagnitude false d.magnitude

/-- The place in the total order, in which minus zero comes before zero. -/
def orderKey (d : Double) : Int :=
  if d.isNegative then -(d.magnitude : Int) - 1 else d.magnitude

/-- The signed value of a finite double as a multiple of `2⁻¹⁰⁷⁴`. -/
def units? (d : Double) : Option Int :=
  if d.isFinite then some (if d.isNegative then -(d.scaled : Int) else d.scaled) else none

/-- The two are the same number; the two zeros are, and what is no number never is. -/
def sameNumber (a b : Double) : Bool :=
  !a.isNaN && !b.isNaN && (a.bits == b.bits || (a.magnitude = 0 && b.magnitude = 0))

end Errand.Number.Double
