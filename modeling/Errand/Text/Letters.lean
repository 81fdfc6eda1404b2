import Errand.Text.CaseTable
import Errand.Text.Classes

/-!
# Errand — lower and upper case

Full case conversion of texts.

* `lowercase`, `uppercase` — case conversion of a whole text.
* `lowerAscii`             — lowering that leaves every non-ASCII letter alone.
-/

namespace Errand.Text

-- ---------------------------------------------------------------------------
-- Single characters
-- ---------------------------------------------------------------------------

/-- The lower case of a character; only the dotted capital I becomes two characters. -/
def lowerChar (c : Char) : List Char :=
  if c.toNat = 0x130 then ['i', Char.ofNat 0x307]
  else [Char.ofNat (CaseRange.map lowerRanges c.toNat)]

/-- The upper case of a character. -/
def upperChar (c : Char) : List Char :=
  match upperExpansions.find? fun entry => entry.1 = c.toNat with
  | some entry => entry.2.map Char.ofNat
  | none => [Char.ofNat (CaseRange.map upperRanges c.toNat)]

/-- Lowers the letters `A` to `Z` and nothing else. -/
def lowerAscii (c : Char) : Char :=
  if 'A' ≤ c ∧ c ≤ 'Z' then Char.ofNat (c.toNat + 32) else c

-- ---------------------------------------------------------------------------
-- Whole texts
-- ---------------------------------------------------------------------------

/-- The first character that is no mark inside a word has case. -/
def meetsLetter (cs : List Char) : Bool :=
  match cs.dropWhile isCaseIgnorable with
  | [] => false
  | c :: _ => isCased c

/--
Lower case of `rest`, with the reversed text before it. A capital sigma that
ends a word becomes the final sigma.
-/
def lowerFrom (before : List Char) (rest : List Char) : List Char :=
  match rest with
  | [] => []
  | c :: rest =>
    let here :=
      if c.toNat = 0x3A3 && meetsLetter before && !meetsLetter rest then
        [Char.ofNat 0x3C2]
      else lowerChar c
    here ++ lowerFrom (c :: before) rest

/-- The text in lower case. -/
def lowercase (s : String) : String := String.ofList (lowerFrom [] s.toList)

/-- The text in upper case. -/
def uppercase (s : String) : String := String.ofList (s.toList.flatMap upperChar)

end Errand.Text
