import Errand.Number.Notation

/-!
# Errand — the words of a template's tags

The words that expressions and statements are written in: names, quoted
texts, numbers and symbols, with white space of ASCII between them. A whole
number may be written in base two, eight, ten or sixteen and has at most 128
bits; underscores may stand between the digits of any number.

* `Token`          — a word.
* `numberToken`    — a number at the front of a text.
* `unescape`       — the text that the inside of a quoted text stands for.
* `token`          — any word at the front of a text.
-/

namespace Errand.Template

open Errand.Number (Double)

/-- A word inside a tag. -/
inductive Token where
  | name (s : String)
  | text (s : String)
  | whole (n : Nat)
  | real (d : Double)
  | symbol (s : String)
  deriving DecidableEq, Inhabited

-- ---------------------------------------------------------------------------
-- Characters
-- ---------------------------------------------------------------------------

/-- A letter or underscore of ASCII. -/
def startsName (c : Char) : Bool := c.isAlpha || c = '_'

/-- A character that a name may go on with. -/
def continuesName (c : Char) : Bool := c.isAlphanum || c = '_'

/-- White space between words. -/
def isGap (c : Char) : Bool :=
  c = ' ' || c = '\t' || c = '\n' || c = '\r' || c = Char.ofNat 12

/-- The text after white space. -/
def skipGap (cs : List Char) : List Char := cs.dropWhile isGap

-- ---------------------------------------------------------------------------
-- Numbers
-- ---------------------------------------------------------------------------

/-- The part of a number that a character belongs to. -/
inductive NumberPart where
  | based (base : Nat)
  | whole
  | fraction
  | exponentMark
  | exponent
  deriving DecidableEq

/-- The part of a number that goes on with a character, if the number does. -/
def NumberPart.next? (part : NumberPart) (c : Char) : Option NumberPart :=
  match part with
  | .based base =>
    if c.isDigit ∨ c = '_' then some part
    else if base = 16 ∧ (Number.digitIn? 16 c).isSome then some part
    else none
  | .whole =>
    if c.isDigit ∨ c = '_' then some part
    else if c = '.' then some .fraction
    else if c = 'e' ∨ c = 'E' then some .exponentMark
    else none
  | .fraction =>
    if c.isDigit ∨ c = '_' then some part
    else if c = 'e' ∨ c = 'E' then some .exponentMark
    else none
  | .exponentMark =>
    if c = '_' then some part
    else if c.isDigit ∨ c = '+' ∨ c = '-' then some .exponent
    else none
  | .exponent => if c.isDigit ∨ c = '_' then some part else none

/-- The characters of a number from one of its parts on, the part that it ends in, and the rest. -/
def numberSpan (part : NumberPart) : List Char → List Char × NumberPart × List Char
  | [] => ([], part, [])
  | c :: rest =>
    match part.next? c with
    | some next =>
      let (read, last, rest) := numberSpan next rest
      (c :: read, last, rest)
    | none => ([], part, c :: rest)

/-- The base that the front of a number names, and the text after it. -/
def numberBase : List Char → NumberPart × List Char
  | '0' :: c :: rest =>
    if c = 'b' ∨ c = 'B' then (.based 2, rest)
    else if c = 'o' ∨ c = 'O' then (.based 8, rest)
    else if c = 'x' ∨ c = 'X' then (.based 16, rest)
    else (.whole, '0' :: c :: rest)
  | cs => (.whole, cs)

/-- The first number that does not fit 128 bits. -/
def wholeBound : Nat := Nat.pow 2 128

/-- A number at the front of a text that starts with a digit. -/
def numberToken (cs : List Char) : Option (Token × List Char) :=
  let (start, cs) := numberBase cs
  let (read, last, rest) := numberSpan start cs
  let digits := read.filter (· ≠ '_')
  let whole (base : Nat) : Option Token :=
    ((Number.natural? base digits).filter (· < wholeBound)).map .whole
  let found := match last with
    | .based base => whole base
    | .whole => whole 10
    | _ => (Double.ofPlainText? false digits).map .real
  if read.getLast? = some '_' then none else found.map fun t => (t, rest)

-- ---------------------------------------------------------------------------
-- Quoted texts
-- ---------------------------------------------------------------------------

/-- The inside of a quoted text up to its quote, escapes as they are, and the rest. -/
def quotedSpan (quote : Char) : List Char → Option (List Char × List Char)
  | [] => none
  | '\\' :: c :: rest =>
    (quotedSpan quote rest).map fun (read, rest) => ('\\' :: c :: read, rest)
  | c :: rest =>
    if c = quote then some ([], rest)
    else (quotedSpan quote rest).map fun (read, rest) => (c :: read, rest)

/-- The character that a letter behind a backslash stands for. -/
def escaped? : Char → Option Char
  | 'n' => some '\n'
  | 't' => some '\t'
  | 'r' => some '\r'
  | 'b' => some (Char.ofNat 8)
  | 'f' => some (Char.ofNat 12)
  | c => if c = '"' ∨ c = '\x27' ∨ c = '\\' ∨ c = '/' then some c else none

/-- The number of so many hexadecimal digits, the first of which may be a plus, and the rest. -/
def hexDigits? (width : Nat) (cs : List Char) : Option (Nat × List Char) :=
  let digits := cs.take width
  let digits := match digits with
    | '+' :: rest => rest
    | digits => digits
  if cs.length < width then none
  else (Number.natural? 16 digits).map fun n => (n, cs.drop width)

/-- The character of a code unit, two of which are needed above the basic plane. -/
def unitEscape? (cs : List Char) : Option (Char × List Char) := do
  let (unit, rest) ← hexDigits? 4 cs
  if unit < 0xD800 ∨ 0xDFFF < unit then some (Char.ofNat unit, rest)
  else match rest with
    | '\\' :: 'u' :: rest =>
      let (second, rest) ← hexDigits? 4 rest
      if unit < 0xDC00 ∧ 0xDC00 ≤ second ∧ second < 0xE000 then
        some (Char.ofNat (0x10000 + (unit - 0xD800) * 0x400 + (second - 0xDC00)), rest)
      else none
    | _ => none

/-- A digit of base eight. -/
def isOctal (c : Char) : Bool := '0' ≤ c && c ≤ '7'

/-- The digits of base eight at the front of a text, three at most. -/
def octalSpan (cs : List Char) : List Char := (cs.take 3).takeWhile isOctal

/-- What an escape whose backslash has been read stands for, and the rest. -/
def escape? : List Char → Option (List Char × List Char)
  | [] => none
  | 'u' :: rest => (unitEscape? rest).map fun (c, rest) => ([c], rest)
  | 'x' :: rest => (hexDigits? 2 rest).map fun (n, rest) => ([Char.ofNat n], rest)
  | c :: rest =>
    if isOctal c then do
      let digits := octalSpan (c :: rest)
      let n ← Number.natural? 8 digits
      if n < 256 then some ([Char.ofNat n], (c :: rest).drop digits.length) else none
    else match escaped? c with
      | some e => some ([e], rest)
      | none => some (['\\', c], rest)

/-- The text that the inside of a quoted text stands for. -/
def unescape (fuel : Nat) (cs : List Char) : Option (List Char) :=
  match fuel, cs with
  | _, [] => some []
  | 0, _ => none
  | fuel + 1, '\\' :: rest => do
    let (here, rest) ← escape? rest
    let more ← unescape fuel rest
    some (here ++ more)
  | fuel + 1, c :: rest => (unescape fuel rest).map (c :: ·)

/-- A quoted text whose opening quote has been read. -/
def textToken (quote : Char) (cs : List Char) : Option (Token × List Char) := do
  let (inside, rest) ← quotedSpan quote cs
  let text ← unescape inside.length inside
  some (.text (String.ofList text), rest)

-- ---------------------------------------------------------------------------
-- All words
-- ---------------------------------------------------------------------------

/-- The symbols of two characters, which win over those of one. -/
def longSymbols : List String := ["//", "**", "==", "!=", ">=", "<="]

/-- The symbols of one character. -/
def shortSymbols : List Char :=
  ['+', '-', '*', '/', '%', '.', ',', ':', '~', '|', '=', '>', '<', '(', ')', '[', ']',
   '\x7b', '\x7d']

/-- A symbol at the front of a text. -/
def symbolToken : List Char → Option (Token × List Char)
  | a :: b :: rest =>
    if longSymbols.contains (String.ofList [a, b]) then
      some (.symbol (String.ofList [a, b]), rest)
    else if shortSymbols.contains a then some (.symbol (String.ofList [a]), b :: rest)
    else none
  | [a] => if shortSymbols.contains a then some (.symbol (String.ofList [a]), []) else none
  | [] => none

/-- A word at the front of a text that does not start with white space. -/
def token (cs : List Char) : Option (Token × List Char) :=
  match cs with
  | [] => none
  | c :: rest =>
    if startsName c then
      let (word, rest) := (c :: rest).span continuesName
      some (.name (String.ofList word), rest)
    else if c.isDigit then numberToken (c :: rest)
    else if c = '"' ∨ c = '\x27' then textToken c rest
    else symbolToken (c :: rest)

end Errand.Template
