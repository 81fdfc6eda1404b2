import Errand.Number.Double

/-!
# Errand — numbers as they are written

Digits read as whole numbers in some base, and the decimal notation of
binary64 numbers: an optional sign, digits with or without a point, and an
optional exponent. Out of range is infinity, and too small is zero.

* `digitValue?`       — the value of a digit up to base thirty-six.
* `natural?`          — the number that digits in a base stand for.
* `Double.ofDigits`   — the double nearest to some digits times a power of ten.
* `Double.ofText?`    — the double that a text denotes.
-/

namespace Errand.Number

-- ---------------------------------------------------------------------------
-- Whole numbers
-- ---------------------------------------------------------------------------

/-- The value of a digit or of a letter of either case that is used as one. -/
def digitValue? (c : Char) : Option Nat :=
  if c.isDigit then some (c.toNat - 48)
  else if c.isLower then some (c.toNat - 87)
  else if c.isUpper then some (c.toNat - 55)
  else none

/-- The value of a digit of a base. -/
def digitIn? (base : Nat) (c : Char) : Option Nat := (digitValue? c).filter (· < base)

/-- The number that some digits of a base stand for, if there is one and all are digits. -/
def natural? (base : Nat) (cs : List Char) : Option Nat :=
  if cs.isEmpty then none
  else (cs.mapM (digitIn? base)).map fun values => values.foldl (fun n d => n * base + d) 0

/-- The number that decimal digits stand for. -/
def decimalValue (cs : List Char) : Nat := cs.foldl (fun n c => n * 10 + (c.toNat - 48)) 0

/-- A sign in front of a number: whether it is a minus, and the text after it. -/
def signed (cs : List Char) : Bool × List Char :=
  match cs with
  | '-' :: rest => (true, rest)
  | '+' :: rest => (false, rest)
  | rest => (false, rest)

/-- The whole number that a text denotes, with or without a sign. -/
def integer? (cs : List Char) : Option Int :=
  let (negative, digits) := signed cs
  (natural? 10 digits).map fun n => if negative then -(n : Int) else n

-- ---------------------------------------------------------------------------
-- Doubles
-- ---------------------------------------------------------------------------

namespace Double

/-- A power of ten beyond this one decides a number on its own. -/
def powerBound : Nat := 400

/-- The double nearest to some decimal digits times a power of ten. -/
def ofDigits (negative : Bool) (digits : List Char) (power : Int) : Double :=
  let digits := digits.dropWhile (· = '0')
  let size : Int := digits.length + power
  if digits.isEmpty ∨ size < -powerBound then ofRatio negative 0 1
  else if powerBound < size then ofMagnitude negative infinity
  else if 0 ≤ power then ofRatio negative (decimalValue digits * Nat.pow 10 power.toNat) 1
  else ofRatio negative (decimalValue digits) (Nat.pow 10 power.natAbs)

/-- The double of a decimal notation without a sign; it has a digit before the exponent. -/
def ofPlainText? (negative : Bool) (cs : List Char) : Option Double := do
  let (mantissa, exponent) := cs.span fun c => c ≠ 'e' ∧ c ≠ 'E'
  let (whole, fraction) := mantissa.span (· ≠ '.')
  let places := fraction.drop 1
  let digits := whole ++ places
  if digits.isEmpty ∨ !digits.all Char.isDigit then none
  let power ← match exponent with
    | [] => some (0 : Int)
    | _ :: text => integer? text
  some (ofDigits negative digits (power - places.length))

/-- The double that a text denotes: a decimal notation, infinity, or what is no number. -/
def ofText? (cs : List Char) : Option Double :=
  let (negative, rest) := signed cs
  let word := String.ofList (rest.map Char.toLower)
  if word = "inf" ∨ word = "infinity" then some (ofMagnitude negative infinity)
  else if word = "nan" then some (ofMagnitude negative (infinity + Nat.pow 2 51))
  else ofPlainText? negative rest

end Double

end Errand.Number
