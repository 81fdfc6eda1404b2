import Errand.Text.ClassTable

/-!
# Errand — classes of characters

Which characters are letters, numbers, small or capital letters, marks inside
a word, or parts of what stands before them.

* `isAlphabetic`, `isNumeric`              — letters and numbers of every script.
* `isLowercase`, `isUppercase`, `isCased`  — letters with case.
* `isCaseIgnorable`                        — marks that do not separate letters.
* `isExtending`, `isHidden`                — characters that do not show by themselves.
-/

namespace Errand.Text

/-- The ranges of letters. -/
def alphabeticRanges : List (Nat × Nat) := readRanges alphabeticText

/-- The ranges of numbers. -/
def numericRanges : List (Nat × Nat) := readRanges numericText

/-- The ranges of small letters. -/
def lowercaseRanges : List (Nat × Nat) := readRanges lowercaseText

/-- The ranges of capital letters. -/
def uppercaseRanges : List (Nat × Nat) := readRanges uppercaseText

/-- The ranges of letters with a capital first half. -/
def titlecaseRanges : List (Nat × Nat) := readRanges titlecaseText

/-- The ranges of marks inside words. -/
def ignorableRanges : List (Nat × Nat) := readRanges ignorableText

/-- The ranges of characters that extend the one before them. -/
def extendingRanges : List (Nat × Nat) := readRanges extendingText

/-- The ranges of characters that show nothing of their own. -/
def hiddenRanges : List (Nat × Nat) := readRanges hiddenText

/-- A letter of any script. -/
def isAlphabetic (c : Char) : Bool := c.isAlpha || inRanges alphabeticRanges c.toNat

/-- A number of any script. -/
def isNumeric (c : Char) : Bool := c.isDigit || inRanges numericRanges c.toNat

/-- A small letter. -/
def isLowercase (c : Char) : Bool := c.isLower || inRanges lowercaseRanges c.toNat

/-- A capital letter. -/
def isUppercase (c : Char) : Bool := c.isUpper || inRanges uppercaseRanges c.toNat

/-- A letter with case. -/
def isCased (c : Char) : Bool :=
  isLowercase c || isUppercase c || inRanges titlecaseRanges c.toNat

/-- A mark that does not separate the letters of a word. -/
def isCaseIgnorable (c : Char) : Bool := inRanges ignorableRanges c.toNat

/-- A character that extends the one before it. -/
def isExtending (c : Char) : Bool := inRanges extendingRanges c.toNat

/-- A character that shows nothing of its own. -/
def isHidden (c : Char) : Bool := inRanges hiddenRanges c.toNat

end Errand.Text
