import Mathlib
import Errand.Json.Reader
import Errand.Number.Notation

/-!
# Errand — the grammar of structured text

Which texts spell which values, said without a reader. The grammar is that of
RFC 8259, with the limits that this library sets: at most 127 containers stand
inside each other, a surrogate stands for a character only in a pair, and a number
that is no integer of 64 bits is a double that is not out of range. Of two members
with one name the later stays.

* `NumberText`, `StringText`   — the spellings of a number, and of the inside of a string.
* `Written`                    — the spellings of a value without white space around it.
* `Acceptable`                 — a whole text spells a value.

A spelling is split where it is put together, so each rule is one constructor,
and no rule speaks of what comes after it.
-/

namespace Errand

open Number (decimalValue natural?)

namespace Json

-- ---------------------------------------------------------------------------
-- White space and digits
-- ---------------------------------------------------------------------------

/-- White space between tokens. -/
def Blanks (cs : List Char) : Prop := ∀ c ∈ cs, c ∈ [' ', '\t', '\n', '\r']

/-- At least one digit and nothing else. -/
def IsDigits (cs : List Char) : Prop := cs ≠ [] ∧ ∀ c ∈ cs, c.isDigit = true

-- ---------------------------------------------------------------------------
-- Numbers
-- ---------------------------------------------------------------------------

/-- The whole part of a number has no zero in front of another digit. -/
def IsWhole (cs : List Char) : Prop := IsDigits cs ∧ (cs.head? = some '0' → cs = ['0'])

/-- A minus, if there is one. -/
def signText (negative : Bool) : List Char := if negative then ['-'] else []

/-- The spellings of a fraction, which may be absent. -/
inductive FractionText : List Char → Option (List Char) → Prop
  | absent : FractionText [] none
  | places {ds : List Char} (h : IsDigits ds) : FractionText ('.' :: ds) (some ds)

/-- The spellings of a power of ten, which may be absent. -/
inductive ExponentText : List Char → Option Int → Prop
  | absent : ExponentText [] none
  | bare {mark : Char} {ds : List Char} (hm : mark = 'e' ∨ mark = 'E') (h : IsDigits ds) :
      ExponentText (mark :: ds) (some (decimalValue ds))
  | plus {mark : Char} {ds : List Char} (hm : mark = 'e' ∨ mark = 'E') (h : IsDigits ds) :
      ExponentText (mark :: '+' :: ds) (some (decimalValue ds))
  | minus {mark : Char} {ds : List Char} (hm : mark = 'e' ∨ mark = 'E') (h : IsDigits ds) :
      ExponentText (mark :: '-' :: ds) (some (-(decimalValue ds : Int)))

/-- 64 bits hold the integer of this sign and magnitude. Minus zero is no integer. -/
def FitsWord (negative : Bool) (n : Nat) : Prop :=
  if negative then 0 < n ∧ n ≤ 2 ^ 63 else n < 2 ^ 64

instance (negative : Bool) (n : Nat) : Decidable (FitsWord negative n) :=
  inferInstanceAs (Decidable (if negative then 0 < n ∧ n ≤ 2 ^ 63 else n < 2 ^ 64))

/-- The integer of this sign and magnitude. -/
def withSign (negative : Bool) (n : Nat) : Int := if negative then -(n : Int) else n

/-- Of the digits `ds` behind others, as many are kept as 64 bits hold; the rest is dropped. -/
structure Kept (before ds kept dropped : List Char) : Prop where
  split : ds = kept ++ dropped
  fits : decimalValue (before ++ kept) < 2 ^ 64
  full : ∀ c ∈ dropped.head?, 2 ^ 64 ≤ decimalValue (before ++ kept ++ [c])

/--
The spellings of a number. Without fraction and exponent it is the integer that
is written, if 64 bits hold it. Every other number is a double: its digits as far
as 64 bits hold them, times the power of ten that the point, the digits dropped
and the exponent come to, if that is not out of range.
-/
inductive NumberText : List Char → Json.Number → Prop
  | integer {negative : Bool} {whole : List Char} (h : IsWhole whole)
      (fits : FitsWord negative (decimalValue whole)) :
      NumberText (signText negative ++ whole) (.int (withSign negative (decimalValue whole)))
  | double {negative : Bool} {whole ft et kept dropped kept' dropped' : List Char}
      {f : Option (List Char)} {e : Option Int} {d : Number.Double} (h : IsWhole whole)
      (hf : FractionText ft f) (he : ExponentText et e)
      (wide : f = none → e = none → ¬ FitsWord negative (decimalValue whole))
      (first : Kept [] whole kept dropped) (places : Kept kept (f.getD []) kept' dropped')
      (value : Reader.fromParts negative (decimalValue (kept ++ kept'))
        (dropped.length - kept'.length + e.getD 0) = some d) :
      NumberText (signText negative ++ (whole ++ (ft ++ et))) (.double d)

-- ---------------------------------------------------------------------------
-- Strings
-- ---------------------------------------------------------------------------

/-- Four hexadecimal digits of either case. -/
def HexText (cs : List Char) (unit : Nat) : Prop := cs.length = 4 ∧ natural? 16 cs = some unit

/-- A unit of UTF-16 that is the first half of a pair. -/
def IsHighHalf (unit : Nat) : Prop := 0xD800 ≤ unit ∧ unit < 0xDC00

/-- A unit of UTF-16 that is the second half of a pair. -/
def IsLowHalf (unit : Nat) : Prop := 0xDC00 ≤ unit ∧ unit < 0xE000

/-- The spellings of a character behind a backslash. -/
inductive EscapeText : List Char → Char → Prop
  | quote : EscapeText ['"'] '"'
  | backslash : EscapeText ['\\'] '\\'
  | slash : EscapeText ['/'] '/'
  | backspace : EscapeText ['b'] (Char.ofNat 0x08)
  | formFeed : EscapeText ['f'] (Char.ofNat 0x0C)
  | lineFeed : EscapeText ['n'] '\n'
  | carriageReturn : EscapeText ['r'] '\r'
  | tab : EscapeText ['t'] '\t'
  | unit {hex : List Char} {n : Nat} (h : HexText hex n) (high : ¬ IsHighHalf n)
      (low : ¬ IsLowHalf n) : EscapeText ('u' :: hex) (Char.ofNat n)
  | pair {hex hex' : List Char} {n n' : Nat} (h : HexText hex n) (h' : HexText hex' n')
      (high : IsHighHalf n) (low : IsLowHalf n') :
      EscapeText ('u' :: (hex ++ '\\' :: 'u' :: hex'))
        (Char.ofNat (0x10000 + (n - 0xD800) * 0x400 + (n' - 0xDC00)))

/-- The spellings of some characters between the quotes of a string. -/
inductive StringText : List Char → List Char → Prop
  | nil : StringText [] []
  | plain {c : Char} {cs s : List Char} (quote : c ≠ '"') (backslash : c ≠ '\\')
      (control : ¬ c.toNat < 0x20) (rest : StringText cs s) : StringText (c :: cs) (c :: s)
  | escape {e cs s : List Char} {c : Char} (h : EscapeText e c) (rest : StringText cs s) :
      StringText ('\\' :: (e ++ cs)) (c :: s)

-- ---------------------------------------------------------------------------
-- Values
-- ---------------------------------------------------------------------------

mutual
/-- The spellings of a value in which at most `depth` containers stand inside each other. -/
inductive Written : Nat → List Char → Json → Prop
  | null {depth : Nat} : Written depth "null".toList .null
  | truth {depth : Nat} : Written depth "true".toList (.bool true)
  | falsehood {depth : Nat} : Written depth "false".toList (.bool false)
  | number {depth : Nat} {cs : List Char} {n : Json.Number} (h : NumberText cs n) :
      Written depth cs (.number n)
  | string {depth : Nat} {cs s : List Char} (h : StringText cs s) :
      Written depth ('"' :: (cs ++ ['"'])) (.string (String.ofList s))
  | emptyArray {depth : Nat} {w : List Char} (h : Blanks w) :
      Written (depth + 1) ('[' :: (w ++ [']'])) (.array [])
  | array {depth : Nat} {cs : List Char} {vs : List Json} (h : Items depth cs vs) :
      Written (depth + 1) ('[' :: (cs ++ [']'])) (.array vs)
  | emptyObject {depth : Nat} {w : List Char} (h : Blanks w) :
      Written (depth + 1) ('\x7b' :: (w ++ ['\x7d'])) (.object [])
  | object {depth : Nat} {cs : List Char} {ms : List (String × Json)} (h : Members depth cs ms) :
      Written (depth + 1) ('\x7b' :: (cs ++ ['\x7d'])) (ofMembers ms)

/-- The spellings of a value with white space around it. -/
inductive Spaced : Nat → List Char → Json → Prop
  | mk {depth : Nat} {w cs w' : List Char} {v : Json} (before : Blanks w)
      (h : Written depth cs v) (after : Blanks w') : Spaced depth (w ++ (cs ++ w')) v

/-- The spellings of one or more values with a comma between them. -/
inductive Items : Nat → List Char → List Json → Prop
  | one {depth : Nat} {cs : List Char} {v : Json} (h : Spaced depth cs v) : Items depth cs [v]
  | more {depth : Nat} {cs rest : List Char} {v : Json} {vs : List Json} (h : Spaced depth cs v)
      (others : Items depth rest vs) : Items depth (cs ++ ',' :: rest) (v :: vs)

/-- The spellings of a name and a value with a colon between them. -/
inductive Member : Nat → List Char → String × Json → Prop
  | mk {depth : Nat} {w name s w' cs : List Char} {v : Json} (before : Blanks w)
      (h : StringText name s) (after : Blanks w') (value : Spaced depth cs v) :
      Member depth (w ++ '"' :: (name ++ '"' :: (w' ++ ':' :: cs))) (String.ofList s, v)

/-- The spellings of one or more members with a comma between them. -/
inductive Members : Nat → List Char → List (String × Json) → Prop
  | one {depth : Nat} {cs : List Char} {m : String × Json} (h : Member depth cs m) :
      Members depth cs [m]
  | more {depth : Nat} {cs rest : List Char} {m : String × Json} {ms : List (String × Json)}
      (h : Member depth cs m) (others : Members depth rest ms) :
      Members depth (cs ++ ',' :: rest) (m :: ms)
end

/-- A whole text spells a value in which at most 127 containers stand inside each other. -/
def Acceptable (text : String) (v : Json) : Prop := Spaced 127 text.toList v

end Json

end Errand
