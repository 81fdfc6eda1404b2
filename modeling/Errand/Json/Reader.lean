import Errand.Json.Basic

/-!
# Errand — reading structured values

A strict reader of JSON: no byte-order mark, no comments, no trailing commas,
white space of four characters only, no raw control inside a string, no half
of a surrogate pair, and at most 127 containers inside each other. A text is
accepted as a whole or not at all.

* `Json.parse?`       — the value of a text.
* `Reader.value`      — a value and the text after it.
* `Reader.number`     — a number and the text after it.
* `Reader.stringBody` — a string whose opening quote has been read.

Numbers that are not whole, or do not fit 64 bits, become doubles by the
reader's own arithmetic: the digits that fit 64 bits, rounded to a double, and
that times or over a power of ten, rounded again (`Reader.fromParts`).
-/

namespace Errand.Json.Reader

open Errand.Number

/-- The white space between tokens. -/
def isBlank (c : Char) : Bool := c = ' ' || c = '\t' || c = '\n' || c = '\r'

/-- The text after leading white space. -/
def skipBlanks (cs : List Char) : List Char := cs.dropWhile isBlank

-- ---------------------------------------------------------------------------
-- Numbers
-- ---------------------------------------------------------------------------

/-- The largest unsigned number of 64 bits. -/
def maxWord : Nat := Nat.pow 2 64 - 1

/-- The value of a decimal digit. -/
def digitValue (c : Char) : Nat := c.toNat - '0'.toNat

/-- The digits gathered from the front while they fit 64 bits, and those left over. -/
def gather (significand : Nat) : List Char → Nat × List Char
  | [] => (significand, [])
  | c :: rest =>
    let next := significand * 10 + digitValue c
    if maxWord < next then (significand, c :: rest) else gather next rest

/-- The double nearest to a power of ten from `10⁰` to `10³⁰⁸`. -/
def powerOfTen (n : Nat) : Double := Double.ofRatio false (Nat.pow 10 n) 1

/-- Divides by `10³⁰⁸` until the power left is in the table or the value has vanished. -/
def scaleDown (fuel : Nat) (value : Double) (power : Nat) : Double :=
  match fuel with
  | 0 => value
  | fuel + 1 =>
    if power ≤ 308 then value.div (powerOfTen power)
    else if value.isZero then value
    else scaleDown fuel (value.div (powerOfTen 308)) (power - 308)

/-- A significand times a power of ten; nothing if that overflows. -/
def fromParts (negative : Bool) (significand : Nat) (power : Int) : Option Double :=
  let start := Double.ofRatio false significand 1
  let magnitude :=
    if power < 0 then some (scaleDown (power.natAbs / 308 + 1) start power.natAbs)
    else if start.isZero then some start
    else if 308 < power then none
    else
      let product := start.mul (powerOfTen power.toNat)
      if product.isFinite then some product else none
  magnitude.map fun m => if negative then m.neg else m

/-- The digits at the front of a text, and the text after them. -/
def digits (cs : List Char) : List Char × List Char := cs.span Char.isDigit

/-- The digits of the whole part: a zero alone, or digits that do not start with zero. -/
def wholePart (cs : List Char) : Option (List Char × List Char) :=
  match digits cs with
  | ([], _) => none
  | ('0' :: _ :: _, _) => none
  | found => some found

/-- The digits after a point, if there is one; a point alone is an error. -/
def fractionPart : List Char → Option (Option (List Char) × List Char)
  | '.' :: rest =>
    match digits rest with
    | ([], _) => none
    | (found, rest) => some (some found, rest)
  | rest => some (none, rest)

/-- The number after an exponent mark, if there is one; a mark alone is an error. -/
def exponentPart (cs : List Char) : Option (Option Int × List Char) :=
  match cs with
  | mark :: rest =>
    if mark = 'e' ∨ mark = 'E' then
      let (negative, rest) := match rest with
        | '+' :: rest => (false, rest)
        | '-' :: rest => (true, rest)
        | rest => (false, rest)
      match digits rest with
      | ([], _) => none
      | (found, rest) =>
        let n : Int := (found.foldl (fun n c => n * 10 + digitValue c) 0 : Nat)
        some (some (if negative then -n else n), rest)
    else some (none, cs)
  | [] => some (none, [])

/-- A number written without point and exponent: an integer if it fits 64 bits. -/
def integer (negative : Bool) (whole : List Char) : Option Number :=
  match gather 0 whole with
  | (n, []) =>
    if !negative then some (.int n)
    else if 0 < n ∧ n ≤ Nat.pow 2 63 then some (.int (-n))
    else (fromParts true n 0).map .double
  | (n, dropped) => (fromParts negative n dropped.length).map .double

/-- The value of a number's parts. -/
def numberValue (negative : Bool) (whole : List Char) (fraction : Option (List Char))
    (exponent : Option Int) : Option Number :=
  if fraction.isNone && exponent.isNone then integer negative whole
  else
    let (n, dropped) := gather 0 whole
    let places := fraction.getD []
    let (n, ignored) := gather n places
    let kept : Int := (places.length - ignored.length : Nat)
    (fromParts negative n (dropped.length - kept + exponent.getD 0)).map .double

/-- A number at the front of a text, and the text after it. -/
def number (cs : List Char) : Option (Number × List Char) := do
  let (negative, rest) := match cs with
    | '-' :: rest => (true, rest)
    | rest => (false, rest)
  let (whole, rest) ← wholePart rest
  let (fraction, rest) ← fractionPart rest
  let (exponent, rest) ← exponentPart rest
  let n ← numberValue negative whole fraction exponent
  some (n, rest)

-- ---------------------------------------------------------------------------
-- Strings
-- ---------------------------------------------------------------------------

/-- The value of a hexadecimal digit of either case. -/
def hexValue? (c : Char) : Option Nat :=
  if '0' ≤ c ∧ c ≤ '9' then some (c.toNat - '0'.toNat)
  else if 'a' ≤ c ∧ c ≤ 'f' then some (c.toNat - 'a'.toNat + 10)
  else if 'A' ≤ c ∧ c ≤ 'F' then some (c.toNat - 'A'.toNat + 10)
  else none

/-- The value of four hexadecimal digits, and the text after them. -/
def hexFour : List Char → Option (Nat × List Char)
  | a :: b :: c :: d :: rest => do
    let a ← hexValue? a
    let b ← hexValue? b
    let c ← hexValue? c
    let d ← hexValue? d
    some (((a * 16 + b) * 16 + c) * 16 + d, rest)
  | _ => none

/-- The character of a `\u` escape, whose second half must follow a first half. -/
def unicodeEscape (cs : List Char) : Option (Char × List Char) := do
  let (unit, rest) ← hexFour cs
  if 0xD800 ≤ unit ∧ unit < 0xDC00 then
    match rest with
    | '\\' :: 'u' :: rest =>
      let (second, rest) ← hexFour rest
      if 0xDC00 ≤ second ∧ second < 0xE000 then
        some (Char.ofNat (0x10000 + (unit - 0xD800) * 0x400 + (second - 0xDC00)), rest)
      else none
    | _ => none
  else if 0xDC00 ≤ unit ∧ unit < 0xE000 then none
  else some (Char.ofNat unit, rest)

/-- The character of an escape whose backslash has been read. -/
def escape : List Char → Option (Char × List Char)
  | '"' :: rest => some ('"', rest)
  | '\\' :: rest => some ('\\', rest)
  | '/' :: rest => some ('/', rest)
  | 'b' :: rest => some (Char.ofNat 0x08, rest)
  | 'f' :: rest => some (Char.ofNat 0x0C, rest)
  | 'n' :: rest => some ('\n', rest)
  | 'r' :: rest => some ('\r', rest)
  | 't' :: rest => some ('\t', rest)
  | 'u' :: rest => unicodeEscape rest
  | _ => none

/-- The rest of a string up to its closing quote; `read` holds the characters so far. -/
def stringBody (fuel : Nat) (read : List Char) (cs : List Char) : Option (String × List Char) :=
  match fuel, cs with
  | _, [] => none
  | 0, _ => none
  | fuel + 1, c :: rest =>
    if c = '"' then some (String.ofList read.reverse, rest)
    else if c = '\\' then
      match escape rest with
      | some (e, rest) => stringBody fuel (e :: read) rest
      | none => none
    else if c.toNat < 0x20 then none
    else stringBody fuel (c :: read) rest

-- ---------------------------------------------------------------------------
-- Values
-- ---------------------------------------------------------------------------

/-- How many containers may stand inside each other. -/
def maxDepth : Nat := 127

/-- A literal word at the front of a text. -/
def word (w : String) (v : Json) (cs : List Char) : Option (Json × List Char) :=
  if w.toList.isPrefixOf cs then some (v, cs.drop w.length) else none

mutual
/-- A value at the front of a text without leading white space, and the text after it. -/
def value (fuel depth : Nat) (cs : List Char) : Option (Json × List Char) :=
  match fuel, cs with
  | 0, _ => none
  | _, [] => none
  | fuel + 1, c :: rest =>
    if c = '"' then (stringBody fuel [] rest).map fun (s, rest) => (.string s, rest)
    else if c = '[' then
      if depth = 0 then none
      else match skipBlanks rest with
        | ']' :: rest => some (.array [], rest)
        | rest => items fuel (depth - 1) [] rest
    else if c = '\x7b' then
      if depth = 0 then none
      else match skipBlanks rest with
        | '\x7d' :: rest => some (.object [], rest)
        | rest => members fuel (depth - 1) [] rest
    else if c = 'n' then word "null" .null (c :: rest)
    else if c = 't' then word "true" (.bool true) (c :: rest)
    else if c = 'f' then word "false" (.bool false) (c :: rest)
    else (number (c :: rest)).map fun (n, rest) => (.number n, rest)

/-- The rest of an array from an item on; `read` holds the items so far, latest first. -/
def items (fuel depth : Nat) (read : List Json) (cs : List Char) : Option (Json × List Char) :=
  match fuel with
  | 0 => none
  | fuel + 1 =>
    match value fuel depth (skipBlanks cs) with
    | none => none
    | some (item, rest) =>
      match skipBlanks rest with
      | ',' :: rest => items fuel depth (item :: read) rest
      | ']' :: rest => some (.array (item :: read).reverse, rest)
      | _ => none

/-- The rest of an object from a member on; `read` holds the members so far, latest first. -/
def members (fuel depth : Nat) (read : List (String × Json)) (cs : List Char) :
    Option (Json × List Char) :=
  match fuel with
  | 0 => none
  | fuel + 1 =>
    match skipBlanks cs with
    | '"' :: rest =>
      match stringBody fuel [] rest with
      | none => none
      | some (name, rest) =>
        match skipBlanks rest with
        | ':' :: rest =>
          match value fuel depth (skipBlanks rest) with
          | none => none
          | some (v, rest) =>
            match skipBlanks rest with
            | ',' :: rest => members fuel depth ((name, v) :: read) rest
            | '\x7d' :: rest => some (ofMembers ((name, v) :: read).reverse, rest)
            | _ => none
        | _ => none
    | _ => none
end

end Reader

/-- The value of a whole text. -/
def parse? (text : String) : Option Json :=
  let cs := Reader.skipBlanks text.toList
  match Reader.value (2 * cs.length + 2) Reader.maxDepth cs with
  | some (v, rest) => if (Reader.skipBlanks rest).isEmpty then some v else none
  | none => none

end Errand.Json
