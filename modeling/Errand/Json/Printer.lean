import Errand.Json.Basic

/-!
# Errand — writing structured values

Two layouts of the same text: **compact**, with nothing between the tokens,
and **pretty**, one item a line and two spaces a level.

* `Json.compact`, `Json.pretty` — the two layouts.
* `Json.quotedChars`            — a string between quotes, with its escapes.
-/

namespace Errand.Json

-- ---------------------------------------------------------------------------
-- Scalars
-- ---------------------------------------------------------------------------

/-- One lower-case hexadecimal digit. -/
def hexDigit (n : Nat) : Char := (Nat.toDigits 16 (n % 16)).headD '0'

/--
How one character stands inside a string: the quote and the backslash behind a
backslash, the five named controls by their letters, every other control
below U+0020 by its code, and all else as it is.
-/
def escapeChar (c : Char) : List Char :=
  if c = '"' then ['\\', '"']
  else if c = '\\' then ['\\', '\\']
  else if c = '\n' then ['\\', 'n']
  else if c = '\r' then ['\\', 'r']
  else if c = '\t' then ['\\', 't']
  else if c.toNat = 0x08 then ['\\', 'b']
  else if c.toNat = 0x0C then ['\\', 'f']
  else if c.toNat < 0x20 then
    ['\\', 'u', '0', '0', hexDigit (c.toNat / 16), hexDigit c.toNat]
  else [c]

/-- A string between quotes. -/
def quotedChars (s : String) : List Char :=
  '"' :: (s.toList.flatMap escapeChar ++ ['"'])

/-- The text of a number. -/
def Number.text : Number → String
  | .int n => toString n
  | .double d => d.compactText

-- ---------------------------------------------------------------------------
-- Compact layout
-- ---------------------------------------------------------------------------

mutual
/-- The compact text of a value. -/
def compactChars : Json → List Char
  | .null => "null".toList
  | .bool b => (if b then "true" else "false").toList
  | .number n => n.text.toList
  | .string s => quotedChars s
  | .array items => '[' :: (compactItems items ++ [']'])
  | .object members => '\x7b' :: (compactMembers members ++ ['\x7d'])

/-- The items of an array with a comma between them. -/
def compactItems : List Json → List Char
  | [] => []
  | [item] => compactChars item
  | item :: next :: rest => compactChars item ++ ',' :: compactItems (next :: rest)

/-- The members of an object with a comma between them. -/
def compactMembers : List (String × Json) → List Char
  | [] => []
  | [(name, value)] => quotedChars name ++ ':' :: compactChars value
  | (name, value) :: next :: rest =>
    quotedChars name ++ ':' :: (compactChars value ++ ',' :: compactMembers (next :: rest))
end

/-- The text of a value with nothing between its tokens. -/
def compact (v : Json) : String := String.ofList (compactChars v)

-- ---------------------------------------------------------------------------
-- Pretty layout
-- ---------------------------------------------------------------------------

/-- A line break and two spaces a level. -/
def newline (level : Nat) : List Char := '\n' :: List.replicate (2 * level) ' '

mutual
/-- The pretty text of a value whose first line stands at `level`. -/
def prettyChars (level : Nat) : Json → List Char
  | .array [] => ['[', ']']
  | .array (item :: rest) =>
    '[' :: (prettyItems (level + 1) (item :: rest) ++ (newline level ++ [']']))
  | .object [] => ['\x7b', '\x7d']
  | .object (entry :: rest) =>
    '\x7b' :: (prettyMembers (level + 1) (entry :: rest) ++ (newline level ++ ['\x7d']))
  | .null => "null".toList
  | .bool b => (if b then "true" else "false").toList
  | .number n => n.text.toList
  | .string s => quotedChars s

/-- The items of an array, each on a line of its own. -/
def prettyItems (level : Nat) : List Json → List Char
  | [] => []
  | [item] => newline level ++ prettyChars level item
  | item :: next :: rest =>
    newline level ++ prettyChars level item ++ ',' :: prettyItems level (next :: rest)

/-- The members of an object, each on a line of its own. -/
def prettyMembers (level : Nat) : List (String × Json) → List Char
  | [] => []
  | [(name, value)] =>
    newline level ++ quotedChars name ++ ':' :: ' ' :: prettyChars level value
  | (name, value) :: next :: rest =>
    newline level ++ quotedChars name ++
      ':' :: ' ' :: (prettyChars level value ++ ',' :: prettyMembers level (next :: rest))
end

/-- The text of a value, one item a line. -/
def pretty (v : Json) : String := String.ofList (prettyChars 0 v)

end Errand.Json
