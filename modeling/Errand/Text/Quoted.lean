import Errand.Text.Classes

/-!
# Errand — texts between quotes

A text as it stands inside a list: between double quotes, with backslashes
before quotes and backslashes, letters for line breaks and tabs, and the code
point in braces for whatever shows nothing of its own.

* `quotedChar` — a character between quotes.
* `quoted`     — a text between quotes.
-/

namespace Errand.Text

/-- The code point of a character in braces. -/
def codeInBraces (c : Char) : List Char :=
  ['\\', 'u', '\x7b'] ++ Nat.toDigits 16 c.toNat ++ ['\x7d']

/-- A character between quotes. -/
def quotedChar (c : Char) : List Char :=
  if c = Char.ofNat 0 then ['\\', '0']
  else if c = '\t' then ['\\', 't']
  else if c = '\r' then ['\\', 'r']
  else if c = '\n' then ['\\', 'n']
  else if c = '"' ∨ c = '\\' then ['\\', c]
  else if c.toNat < 0x7F ∧ 0x20 ≤ c.toNat then [c]
  else if isExtending c ∨ isHidden c then codeInBraces c
  else [c]

/-- A text between quotes. -/
def quoted (s : String) : String :=
  String.ofList ('"' :: (s.toList.flatMap quotedChar ++ ['"']))

end Errand.Text
