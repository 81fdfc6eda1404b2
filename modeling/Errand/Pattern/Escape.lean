import Errand.Pattern.Basic
import Errand.Pattern.Flags
import Errand.Pattern.Folding
import Errand.Pattern.Property

/-!
# Errand — escapes in patterns

What stands behind a backslash: characters by name or number, sets by letter or
property, and places. Letters without a meaning and digits are refused.

* `Escape`        — what an escape stands for.
* `Escape.read?`  — the escape at the front of a text.
* `Flags.folded`  — a set under the switch for cases.
* `Flags.inverse?` — the complement of a set, where there is one.
-/

namespace Errand.Pattern

/-- What an escape stands for. -/
inductive Escape where
  | char (c : Char)
  | set (s : CharSet)
  | place (p : Place)

-- ---------------------------------------------------------------------------
-- Sets under the switches
-- ---------------------------------------------------------------------------

/-- A set with all that equals a member but for case, if the switches ask for it. -/
def Flags.folded (flags : Flags) (s : CharSet) : CharSet :=
  if !flags.anyCase then s else if flags.ascii then s.anyAsciiCase else s.anyCase

/-- The complement of a set; without the switch for all of Unicode it would hold bytes that are no
text. -/
def Flags.inverse? (flags : Flags) (s : CharSet) : Option CharSet :=
  if flags.ascii then none else some s.complement

/-- A set or its complement. -/
def Flags.signed? (flags : Flags) (negated : Bool) (s : CharSet) : Option CharSet :=
  if negated then flags.inverse? s else some s

-- ---------------------------------------------------------------------------
-- Characters by number
-- ---------------------------------------------------------------------------

/-- The value of a hexadecimal digit of either case. -/
def hexDigit? (c : Char) : Option Nat :=
  if c.isDigit then some (c.toNat - 48)
  else if 'a' ≤ c ∧ c ≤ 'f' then some (c.toNat - 87)
  else if 'A' ≤ c ∧ c ≤ 'F' then some (c.toNat - 55)
  else none

/-- The character with a code point in hexadecimal. -/
def charOfHex? (digits : List Char) : Option Char := do
  let values ← digits.mapM hexDigit?
  let code := values.foldl (fun n d => n * 16 + d) 0
  if digits.isEmpty ∨ !code.isValidChar then none else some (Char.ofNat code)

/-- Some characters with blanks and comments in front of each left out. -/
def taken (flags : Flags) : Nat → List Char → Option (List Char × List Char)
  | 0, cs => some ([], cs)
  | n + 1, cs =>
    match skip flags cs with
    | [] => none
    | c :: rest => (taken flags n rest).map fun (cs, rest) => (c :: cs, rest)

/--
A character by its code point, in braces or as a fixed number of digits. Two
digits name a byte, and above ASCII a byte alone is no text.
-/
def hexEscape (flags : Flags) (width : Nat) (cs : List Char) : Option (Char × List Char) :=
  match skip flags cs with
  | '\x7b' :: rest => do
    let (digits, rest) ← untilBrace flags (rest.length + 1) rest
    (charOfHex? digits).map fun c => (c, rest)
  | cs => do
    let (digits, rest) ← taken flags width cs
    let c ← charOfHex? digits
    if flags.ascii ∧ width = 2 ∧ 0x7F < c.toNat then none else some (c, rest)

-- ---------------------------------------------------------------------------
-- Properties
-- ---------------------------------------------------------------------------

/-- The two sides of a sign of some characters, where it stands first. -/
def sides? (sign : List Char) : List Char → Option (List Char × List Char)
  | [] => none
  | c :: rest =>
    if sign.isPrefixOf (c :: rest) then some ([], (c :: rest).drop sign.length)
    else (sides? sign rest).map fun (left, right) => (c :: left, right)

/-- The set of a property, alone or with a value, and whether its complement is meant. -/
def propertyNamed? (cs : List Char) : Option (CharSet × Bool) :=
  match sides? ['!', '='] cs with
  | some (kind, value) => (valueSet? (looseName kind) (looseName value)).map fun s => (s, true)
  | none =>
    match (sides? [':'] cs).or (sides? ['='] cs) with
    | some (kind, value) => (valueSet? (looseName kind) (looseName value)).map fun s => (s, false)
    | none => (propertySet? (looseName cs)).map fun s => (s, false)

/-- The set of a property escape after its letter. -/
def propertyEscape (flags : Flags) (negated : Bool) (cs : List Char) :
    Option (CharSet × List Char) := do
  let (name, rest) ← match skip flags cs with
    | [] | '\\' :: _ => none
    | '\x7b' :: rest => untilBrace flags (rest.length + 1) rest
    | c :: rest => some ([c], rest)
  let (s, opposite) ← propertyNamed? name
  if flags.ascii then none
  else (flags.signed? (negated != opposite) (flags.folded s)).map fun s => (s, rest)

-- ---------------------------------------------------------------------------
-- Letters
-- ---------------------------------------------------------------------------

/-- The set that a small letter behind a backslash stands for. -/
def letterSet? (flags : Flags) : Char → Option CharSet
  | 'd' => some (if flags.ascii then asciiDigitSet else digitSet)
  | 's' => some (if flags.ascii then asciiSpaceSet else spaceSet)
  | 'w' => some (if flags.ascii then asciiWordSet else wordSet)
  | _ => none

/-- The character that a letter behind a backslash stands for. -/
def letterChar? : Char → Option Char
  | 'a' => some (Char.ofNat 0x07)
  | 'f' => some (Char.ofNat 0x0C)
  | 't' => some '\t'
  | 'n' => some '\n'
  | 'r' => some '\r'
  | 'v' => some (Char.ofNat 0x0B)
  | _ => none

/-- The number of digits of a code point behind a letter. -/
def hexWidth? : Char → Option Nat
  | 'x' => some 2
  | 'u' => some 4
  | 'U' => some 8
  | _ => none

/-- A character that may stand behind a backslash for itself: ASCII punctuation and space. -/
def standsForItself (c : Char) : Bool :=
  c.toNat < 0x80 && !c.isAlphanum && c ≠ '<' && c ≠ '>'

/-- The place that a letter behind a backslash stands for. -/
def letterPlace? (flags : Flags) : Char → Option Place
  | 'b' => some (.word flags.ascii .edge)
  | 'B' => some (.word flags.ascii .noEdge)
  | 'A' => some .textStart
  | 'z' => some .textEnd
  | '<' => some (.word flags.ascii .start)
  | '>' => some (.word flags.ascii .stop)
  | _ => none

/-- A character of the names of boundaries. -/
def namesBoundary (c : Char) : Bool := c.isAlpha || c = '-'

/-- The boundary with a name in braces. -/
def boundaryNamed? (name : String) : Option Boundary :=
  match name with
  | "start" => some .start
  | "end" => some .stop
  | "start-half" => some .startHalf
  | "end-half" => some .stopHalf
  | _ => none

/--
A boundary of words, after its letter. A letter or a dash behind an opening
brace begins the name of a special one; anything else begins a repetition.
-/
def boundaryEscape (flags : Flags) (cs : List Char) : Option (Escape × List Char) :=
  let plain := some (Escape.place (.word flags.ascii .edge), cs)
  match cs with
  | '\x7b' :: rest =>
    match skip flags rest with
    | [] => none
    | c :: _ =>
      if namesBoundary c then do
        let (name, rest) ← untilBrace flags (rest.length + 1) rest
        let b ← boundaryNamed? (String.ofList name)
        some (.place (.word flags.ascii b), rest)
      else plain
  | _ => plain

/-- The escape whose backslash has been read. -/
def Escape.read? (flags : Flags) : List Char → Option (Escape × List Char)
  | [] => none
  | c :: rest =>
    if c = 'p' ∨ c = 'P' then
      (propertyEscape flags (c = 'P') rest).map fun (s, rest) => (.set s, rest)
    else if c = 'b' then boundaryEscape flags rest
    else
      match hexWidth? c, letterSet? flags c, letterSet? flags c.toLower, letterChar? c,
        letterPlace? flags c with
      | some width, _, _, _, _ => (hexEscape flags width rest).map fun (c, rest) => (.char c, rest)
      | _, some s, _, _, _ => some (.set s, rest)
      | _, _, some s, _, _ => (flags.inverse? s).map fun s => (.set s, rest)
      | _, _, _, some c, _ => some (.char c, rest)
      | _, _, _, _, some p => some (.place p, rest)
      | none, none, none, none, none =>
        if standsForItself c then some (.char c, rest) else none

end Errand.Pattern
