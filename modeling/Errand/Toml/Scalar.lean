import Errand.Json.Reader
import Errand.Text.Blank
import Errand.Toml.Basic

/-!
# Errand — plain words and quoted texts of settings files

What stands between two delimiters: numbers in four bases, dates and times,
the words for truth and for the unusual numbers, and the four kinds of quoted
text.

* `Toml.scalar?`  — the value of a plain word.
* `Toml.quoted?`  — a quoted text and what follows it.
-/

namespace Errand.Toml

open Errand.Number (Double)

-- ---------------------------------------------------------------------------
-- Numbers
-- ---------------------------------------------------------------------------

/-- The value of a digit of either case. -/
def digitValue (c : Char) : Nat := (Json.Reader.hexValue? c).getD 0

/-- Whether a character is a digit of a base. -/
def isDigitOf (base : Nat) (c : Char) : Bool :=
  match Json.Reader.hexValue? c with
  | some n => n < base
  | none => false

/-- The digits of a number; an underscore may stand between two of them. -/
def digits? (base : Nat) (cs : List Char) : Option (List Char) :=
  let groups := Text.splitOn (· = '_') cs
  if groups.all fun g => !g.isEmpty && g.all (isDigitOf base) then some groups.flatten else none

/-- The value of some digits. -/
def number (base : Nat) (digits : List Char) : Nat :=
  digits.foldl (fun n c => n * base + digitValue c) 0

/-- The digits of a whole part: a zero alone, or digits that do not start with zero. -/
def wholeDigits? (cs : List Char) : Option (List Char) :=
  match digits? 10 cs with
  | some ('0' :: _ :: _) => none
  | found => found

/-- A sign and what follows it. -/
def sign : List Char → Bool × List Char
  | '-' :: rest => (true, rest)
  | '+' :: rest => (false, rest)
  | rest => (false, rest)

/-- Whether a whole number fits 128 bits, signed or unsigned. -/
def fitsWide (n : Int) : Bool := -(Nat.pow 2 127 : Int) ≤ n && n < Nat.pow 2 128

/-- An integer in base ten, or without a sign in base two, eight or sixteen. -/
def integer? (cs : List Char) : Option Toml := do
  let based (base : Nat) (rest : List Char) : Option Int := do
    let digits ← digits? base rest
    some (number base digits : Nat)
  let n ← match cs with
    | '0' :: 'x' :: rest => based 16 rest
    | '0' :: 'o' :: rest => based 8 rest
    | '0' :: 'b' :: rest => based 2 rest
    | cs => do
      let (negative, rest) := sign cs
      let digits ← wholeDigits? rest
      let n : Int := (number 10 digits : Nat)
      some (if negative then -n else n)
  if fitsWide n then some (.integer n) else none

/-- An exponent beyond this bound decides a number on its own. -/
def exponentBound : Nat := 400

/-- The double nearest to some digits times a power of ten; nothing if it is out of range. -/
def double? (negative : Bool) (digits : List Char) (power : Int) : Option Double :=
  let significand := number 10 digits
  let size : Int := digits.length + power
  if significand = 0 ∨ size < -exponentBound then some (Double.ofRatio negative 0 1)
  else if exponentBound < size then none
  else
    let d :=
      if 0 ≤ power then Double.ofRatio negative (significand * Nat.pow 10 power.toNat) 1
      else Double.ofRatio negative significand (Nat.pow 10 power.natAbs)
    if d.isFinite then some d else none

/-- A number with a point, an exponent, or both. -/
def real? (cs : List Char) : Option Toml := do
  let (negative, rest) := sign cs
  let (mantissa, exponent) := rest.span fun c => c ≠ 'e' ∧ c ≠ 'E'
  let (whole, fraction) := mantissa.span (· ≠ '.')
  if fraction.isEmpty ∧ exponent.isEmpty then none
  let whole ← wholeDigits? whole
  let places ← match fraction with
    | [] => some []
    | _ :: places => digits? 10 places
  let power ← match exponent with
    | [] => some (0 : Int)
    | _ :: text => do
      let (below, text) := sign text
      let digits ← digits? 10 text
      let n : Int := (number 10 digits : Nat)
      some (if below then -n else n)
  let d ← double? negative (whole ++ places) (power - places.length)
  some (.real d)

/-- The words for infinity and for what is no number. -/
def unusual? (cs : List Char) : Option Toml :=
  let (negative, rest) := sign cs
  if rest = "inf".toList then some (.real (Double.ofMagnitude negative Double.infinity))
  else if rest = "nan".toList then
    some (.real (Double.ofMagnitude negative (Double.infinity + Nat.pow 2 51)))
  else none

-- ---------------------------------------------------------------------------
-- Dates and times
-- ---------------------------------------------------------------------------

/-- A number of so many digits, and the text after it. -/
def fixedNumber (width : Nat) (cs : List Char) : Option (Nat × List Char) :=
  let digits := cs.take width
  if digits.length = width ∧ digits.all Char.isDigit then
    some (number 10 digits, cs.drop width)
  else none

/-- The text after a character. -/
def after (c : Char) : List Char → Option (List Char)
  | [] => none
  | d :: rest => if c = d then some rest else none

/-- The number of days of a month. -/
def daysIn (year month : Nat) : Nat :=
  if month = 2 then
    if year % 4 = 0 ∧ (year % 100 ≠ 0 ∨ year % 400 = 0) then 29 else 28
  else if month = 4 ∨ month = 6 ∨ month = 9 ∨ month = 11 then 30
  else 31

/-- A date at the front of a text. -/
def date (cs : List Char) : Option (List Char) := do
  let (year, rest) ← fixedNumber 4 cs
  let rest ← after '-' rest
  let (month, rest) ← fixedNumber 2 rest
  let rest ← after '-' rest
  let (day, rest) ← fixedNumber 2 rest
  if 1 ≤ month ∧ month ≤ 12 ∧ 1 ≤ day ∧ day ≤ daysIn year month then some rest else none

/-- The seconds of a time, if they are given, and their fraction. -/
def seconds (cs : List Char) : Option (List Char) :=
  match cs with
  | ':' :: rest => do
    let (second, rest) ← fixedNumber 2 rest
    if 60 < second then none
    match rest with
    | '.' :: rest =>
      let (digits, rest) := rest.span Char.isDigit
      if digits.isEmpty then none else some rest
    | rest => some rest
  | rest => some rest

/-- A time of day at the front of a text. -/
def time (cs : List Char) : Option (List Char) := do
  let (hour, rest) ← fixedNumber 2 cs
  let rest ← after ':' rest
  let (minute, rest) ← fixedNumber 2 rest
  if hour ≤ 23 ∧ minute ≤ 59 then seconds rest else none

/-- An offset from universal time, or nothing. -/
def offset (cs : List Char) : Option Unit :=
  match cs with
  | [] => some ()
  | ['Z'] | ['z'] => some ()
  | c :: rest =>
    if c = '+' ∨ c = '-' then do
      let (hour, rest) ← fixedNumber 2 rest
      let rest ← after ':' rest
      let (minute, rest) ← fixedNumber 2 rest
      if hour ≤ 23 ∧ minute ≤ 59 ∧ rest.isEmpty then some () else none
    else none

/-- A date, a time, or both with an optional offset. -/
def moment? (cs : List Char) : Option Toml :=
  let found : Option Unit :=
    match date cs with
    | some [] => some ()
    | some (c :: rest) =>
      if c = 'T' ∨ c = 't' ∨ c = ' ' then do
        let rest ← time rest
        offset rest
      else none
    | none => do
      let rest ← time cs
      if rest.isEmpty then some () else none
  found.map fun _ => .moment

/-- The value of a plain word. -/
def scalar? (cs : List Char) : Option Toml :=
  if cs = "true".toList then some (.bool true)
  else if cs = "false".toList then some (.bool false)
  else [integer?, real?, unusual?, moment?].findSome? fun read => read cs

-- ---------------------------------------------------------------------------
-- Quoted texts
-- ---------------------------------------------------------------------------

/-- A control character other than the tab; none may stand in a document. -/
def isControl (c : Char) : Bool := (c.toNat < 0x20 && c ≠ '\t') || c.toNat = 0x7F

/-- The character of a number of hexadecimal digits. -/
def codeEscape (width : Nat) (cs : List Char) : Option (Char × List Char) :=
  let digits := cs.take width
  let code := number 16 digits
  if digits.length = width ∧ digits.all (isDigitOf 16) ∧ code.isValidChar then
    some (Char.ofNat code, cs.drop width)
  else none

/-- The character of an escape whose backslash has been read. -/
def escape : List Char → Option (Char × List Char)
  | 'b' :: rest => some (Char.ofNat 0x08, rest)
  | 't' :: rest => some ('\t', rest)
  | 'n' :: rest => some ('\n', rest)
  | 'f' :: rest => some (Char.ofNat 0x0C, rest)
  | 'r' :: rest => some ('\r', rest)
  | 'e' :: rest => some (Char.ofNat 0x1B, rest)
  | '"' :: rest => some ('"', rest)
  | '\\' :: rest => some ('\\', rest)
  | 'x' :: rest => codeEscape 2 rest
  | 'u' :: rest => codeEscape 4 rest
  | 'U' :: rest => codeEscape 8 rest
  | _ => none

/-- Spaces and tabs. -/
def isGap (c : Char) : Bool := c = ' ' || c = '\t'

/-- The text after a line break. -/
def lineBreak : List Char → Option (List Char)
  | '\n' :: rest => some rest
  | '\r' :: '\n' :: rest => some rest
  | _ => none

/-- The text after spaces, tabs and line breaks. -/
def skipLines : List Char → List Char
  | '\r' :: '\n' :: rest => skipLines rest
  | c :: rest => if isGap c || c = '\n' then skipLines rest else c :: rest
  | [] => []

/-- A joined line: only spaces before the break, and all space after it is dropped. -/
def joinedLine (cs : List Char) : Option (List Char) :=
  (lineBreak (cs.dropWhile isGap)).map skipLines

/-- The rest of a text on one line; `raw` says that a backslash means itself. -/
def lineText (fuel : Nat) (quote : Char) (raw : Bool) (read : List Char) (cs : List Char) :
    Option (String × List Char) :=
  match fuel, cs with
  | 0, _ | _, [] => none
  | fuel + 1, c :: rest =>
    if c = quote then some (String.ofList read.reverse, rest)
    else if c = '\\' ∧ !raw then
      match escape rest with
      | some (found, rest) => lineText fuel quote raw (found :: read) rest
      | none => none
    else if isControl c then none
    else lineText fuel quote raw (c :: read) rest

/-- The rest of a text on several lines, which three quotes end. -/
def linesText (fuel : Nat) (quote : Char) (raw : Bool) (read : List Char) (cs : List Char) :
    Option (String × List Char) :=
  match fuel, cs with
  | 0, _ | _, [] => none
  | fuel + 1, c :: rest =>
    if c = quote then
      let (quotes, after) := (c :: rest).span (· = quote)
      if 5 < quotes.length then none
      else if 3 ≤ quotes.length then
        some (String.ofList (read.reverse ++ quotes.drop 3), after)
      else linesText fuel quote raw (c :: read) rest
    else if c = '\\' ∧ !raw then
      match joinedLine rest with
      | some rest => linesText fuel quote raw read rest
      | none =>
        match escape rest with
        | some (found, rest) => linesText fuel quote raw (found :: read) rest
        | none => none
    else if c = '\n' then linesText fuel quote raw (c :: read) rest
    else if c = '\r' then
      if rest.head? = some '\n' then linesText fuel quote raw (c :: read) rest else none
    else if isControl c then none
    else linesText fuel quote raw (c :: read) rest

/-- Whether a character opens a quoted text, and whether backslashes mean themselves in it. -/
def quote? (c : Char) : Option Bool :=
  if c = '"' then some false else if c = '\x27' then some true else none

/-- A quoted text on one line at the front. -/
def shortText? : List Char → Option (String × List Char)
  | [] => none
  | c :: rest => do
    let raw ← quote? c
    lineText (rest.length + 1) c raw [] rest

/-- A quoted text at the front; three quotes open one that may have several lines. -/
def quoted? (cs : List Char) : Option (String × List Char) :=
  match cs with
  | a :: b :: c :: rest =>
    if a = b ∧ b = c then do
      let raw ← quote? a
      linesText (rest.length + 1) a raw [] ((lineBreak rest).getD rest)
    else shortText? cs
  | _ => shortText? cs

end Errand.Toml
