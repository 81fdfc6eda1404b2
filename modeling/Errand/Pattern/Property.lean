import Errand.Pattern.CharSet
import Errand.Pattern.Table.Age
import Errand.Pattern.Table.Binary
import Errand.Pattern.Table.Break
import Errand.Pattern.Table.Category
import Errand.Pattern.Table.Script
import Errand.Pattern.Table.ScriptExtension
import Errand.Text.Blank
import Errand.Text.Letters

/-!
# Errand — properties of characters

The sets that properties name: those that a character has or has not, the
general categories, the scripts, and properties with values. A name may be
written in any case, with "is" in front, and with spaces, dashes and
underscores anywhere.

* `looseName`     — a name without what does not matter in it.
* `propertySet?`  — the set of a property that is named alone.
* `valueSet?`     — the set of a property with a value.
* `digitSet`, `spaceSet`, `wordSet` — the usual sets.
-/

namespace Errand.Pattern

-- ---------------------------------------------------------------------------
-- Names
-- ---------------------------------------------------------------------------

/-- A name in lower case without what is not ASCII, spaces, dashes, underscores, and "is" in front;
of the names that begin so, "isc" keeps it. -/
def looseName (cs : List Char) : String :=
  let keeps (c : Char) : Bool := c.toNat < 0x80 && !(c = ' ' || c = '_' || c = '-')
  match cs.map Text.lowerAscii with
  | 'i' :: 's' :: rest =>
    let name := rest.filter keeps
    if name = ['c'] then "isc" else String.ofList name
  | cs => String.ofList (cs.filter keeps)

/-- The set of the row with a name. -/
def rowSet? (rows : List PropertyRow) (name : String) : Option CharSet :=
  (rowNamed rows name).map .ofRanges

-- ---------------------------------------------------------------------------
-- General categories
-- ---------------------------------------------------------------------------

/-- The general categories that stand for several, by their first letter or their parts. -/
def categoryGroups : List (List String × List String) :=
  [(["l", "letter"], ["lu", "ll", "lt", "lm", "lo"]),
   (["lc", "casedletter"], ["lu", "ll", "lt"]),
   (["m", "mark", "combiningmark"], ["mn", "mc", "me"]),
   (["n", "number"], ["nd", "nl", "no"]),
   (["p", "punctuation", "punct"], ["pc", "pd", "ps", "pe", "pi", "pf", "po"]),
   (["s", "symbol"], ["sm", "sc", "sk", "so"]),
   (["z", "separator"], ["zs", "zl", "zp"])]

/-- The ranges of some general categories. -/
def categoryRanges (names : List String) : List (Nat × Nat) :=
  names.flatMap fun name => (rowNamed categoryRows name).getD []

/-- Every code point with a general category of its own. -/
def assignedSet : CharSet :=
  .ofRanges ((0xD800, 0xDFFF) :: categoryRows.flatMap fun row => Text.readRanges row.2)

/-- The set of a general category. -/
def categorySet? (name : String) : Option CharSet :=
  if name = "any" then some .all
  else if name = "assigned" then some assignedSet
  else if name = "ascii" then some ⟨[(0, 0x7F)]⟩
  else if name = "cn" ∨ name = "unassigned" then some assignedSet.complement
  else if name = "c" ∨ name = "other" then
    some (.union assignedSet.complement (.ofRanges (categoryRanges ["cc", "cf", "co"])))
  else
    match categoryGroups.find? fun entry => entry.1.contains name with
    | some entry => some (.ofRanges (categoryRanges entry.2))
    | none => rowSet? categoryRows name

-- ---------------------------------------------------------------------------
-- Properties
-- ---------------------------------------------------------------------------

/-- The set of a script together with what it shares with others. -/
def extensionSet? (name : String) : Option CharSet :=
  (rowSet? extensionRows name).or (rowSet? scriptRows name)

/-- Every character that is as old as a version of the standard. -/
def ageSet? (name : String) : Option CharSet :=
  let older := ageRows.takeWhile fun row => !row.1.contains name
  (ageRows.find? fun row => row.1.contains name).map fun row =>
    .ofRanges ((older ++ [row]).flatMap fun row => Text.readRanges row.2)

/-- The names that are short for a general category though a property has them too. -/
def categoryFirst : List String := ["cf", "sc", "lc"]

/-- The set of a property that is named alone. -/
def propertySet? (name : String) : Option CharSet :=
  let binary := if categoryFirst.contains name then none else rowSet? propertyRows name
  (binary.or (categorySet? name)).or (rowSet? scriptRows name)

/-- The properties with values, by their names. -/
def valuedProperties : List (List String × (String → Option CharSet)) :=
  [(["gc", "generalcategory"], categorySet?),
   (["sc", "script"], rowSet? scriptRows),
   (["scx", "scriptextensions"], extensionSet?),
   (["age"], ageSet?),
   (["gcb", "graphemeclusterbreak"], rowSet? graphemeRows),
   (["wb", "wordbreak"], rowSet? wordBreakRows),
   (["sb", "sentencebreak"], rowSet? sentenceRows)]

/-- The set of a value of a property. -/
def valueSet? (kind value : String) : Option CharSet := do
  let entry ← valuedProperties.find? fun entry => entry.1.contains kind
  entry.2 value

-- ---------------------------------------------------------------------------
-- The usual sets
-- ---------------------------------------------------------------------------

/-- Decimal digits of every script. -/
def digitSet : CharSet := .ofRanges (categoryRanges ["nd"])

/-- White space. -/
def spaceSet : CharSet := ⟨Text.spaceRanges⟩

/-- The characters of words: letters, marks, digits, connectors and joiners. -/
def wordSet : CharSet :=
  .ofRanges ((rowNamed propertyRows "alphabetic").getD [] ++
    categoryRanges ["mn", "mc", "me", "nd", "pc"] ++ [(0x200C, 0x200D)])

/-- The digits of ASCII. -/
def asciiDigitSet : CharSet := ⟨[(0x30, 0x39)]⟩

/-- White space in ASCII. -/
def asciiSpaceSet : CharSet := ⟨[(0x09, 0x0D), (0x20, 0x20)]⟩

/-- The characters of words in ASCII. -/
def asciiWordSet : CharSet := ⟨[(0x30, 0x39), (0x41, 0x5A), (0x5F, 0x5F), (0x61, 0x7A)]⟩

/-- A character of words; the ASCII ones are decided without the table. -/
def isWordChar (c : Char) : Bool :=
  if c.toNat < 0x80 then asciiWordSet.has c else wordSet.has c

end Errand.Pattern
