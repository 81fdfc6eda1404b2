import Errand.Number.Arithmetic
import Errand.Number.Decimal
import Errand.Text.Quoted

/-!
# Errand — values of a template

What expressions evaluate to: plain data, functions, and the objects that
statements make and change. Lists that an expression writes down are told
apart from series, which operations yield. The members of a record are kept in
the order of their keys.

* `Value`        — the values.
* `Value.print`  — a value as text; an undefined one prints nothing.
* `Value.isTrue` — a value counts as true.
* `Value.items?` — what a loop runs over.
-/

namespace Errand.Template

open Errand.Number (Double)

/-- The objects that statements make: spaces of names, loops, and routines. -/
inductive ObjectKind where
  | space
  | turn
  | routine
  deriving DecidableEq, Inhabited, Repr

/-- What an expression evaluates to. -/
inductive Value where
  | undefined
  | nothing
  | truth (b : Bool)
  | whole (n : Int)
  | real (d : Double)
  /-- A text, which is marked safe if it has been escaped already. -/
  | text (s : String) (safe : Bool)
  | list (items : List Value)
  /-- What an operation yields one by one; some do not know how many they are. -/
  | series (items : List Value) (sized : Bool)
  /-- Members by key, which may be the named arguments of a call. -/
  | record (members : List (Value × Value)) (named : Bool)
  /-- Items that have a key in common. -/
  | group (key items : Value)
  | function (name : String)
  /-- An object by its number, with its text and its members as they are now. -/
  | object (kind : ObjectKind) (id : Nat) (label : String) (members : List (Value × Value))
  deriving Inhabited

namespace Value

/-- A text that has not been escaped. -/
def ofText (s : String) : Value := .text s false

/-- A text of one character. -/
def ofChar (c : Char) : Value := .text (String.ofList [c]) false

/-- A natural number. -/
def ofNat (n : Nat) : Value := .whole n

-- ---------------------------------------------------------------------------
-- Printing
-- ---------------------------------------------------------------------------

/-- The word for what is infinite or no number. -/
def unusualText (d : Double) : String :=
  if d.isNaN then "NaN" else if d.isNegative then "-inf" else "inf"

/-- The text of a number with a fraction; a whole one keeps its point. -/
def realText (d : Double) : String :=
  if !d.isFinite then unusualText d
  else
    let s := d.plainText
    if s.toList.contains '.' then s else s ++ ".0"

/-- Inside a list numbers are positional from `10⁻⁴` up to `10¹⁶`. -/
def listedNumbers : Number.Decimal.CompactLayout := ⟨-4, 15⟩

/-- The text of a number with a fraction inside a list, where an exponent has no plus sign. -/
def listedReal (d : Double) : String :=
  if !d.isFinite then unusualText d
  else
    let s := (Number.Decimal.shortest d).compact listedNumbers d.isNegative
    String.ofList (s.toList.filter (· ≠ '+'))

/-- What stands for a series that does not know its length. -/
def unsizedText : String := "<iterator>"

/-- A function prints as the path it is known by. -/
def functionText (name : String) : String := "minijinja::functions::builtins::" ++ name

mutual
/-- A value inside a list, where texts stand between quotes. -/
def inner : Value → String
  | .undefined => "undefined"
  | .nothing => "None"
  | .truth b => if b then "True" else "False"
  | .whole n => toString n
  | .real d => listedReal d
  | .text s _ => Text.quoted s
  | .list items => "[" ++ String.intercalate ", " (innerItems items) ++ "]"
  | .series items sized =>
    if sized then "[" ++ String.intercalate ", " (innerItems items) ++ "]" else unsizedText
  | .record members _ => "\x7b" ++ String.intercalate ", " (innerMembers members) ++ "\x7d"
  | .group key items => "[" ++ inner key ++ ", " ++ inner items ++ "]"
  | .function name => functionText name
  | .object kind _ label members =>
    if kind = .space then "\x7b" ++ String.intercalate ", " (innerMembers members) ++ "\x7d"
    else label

/-- The items of a list. -/
def innerItems : List Value → List String
  | [] => []
  | v :: rest => inner v :: innerItems rest

/-- The members of a record. -/
def innerMembers : List (Value × Value) → List String
  | [] => []
  | (key, v) :: rest => (inner key ++ ": " ++ inner v) :: innerMembers rest
end

/-- A value as text. -/
def print : Value → String
  | .undefined => ""
  | .text s _ => s
  | .real d => realText d
  | v => v.inner

/-- Lines of something inside brackets, each with a comma behind it. -/
def bracketLines (opening closing margin : String) (lines : List String) : String :=
  if lines.isEmpty then opening ++ closing
  else
    opening ++ "\n" ++ String.join (lines.map fun line => margin ++ "    " ++ line ++ ",\n") ++
      margin ++ closing

mutual
/-- A value over several lines, behind a margin. -/
def spread (margin : String) : Value → String
  | .list items => bracketLines "[" "]" margin (spreadItems (margin ++ "    ") items)
  | .series items sized =>
    if sized then bracketLines "[" "]" margin (spreadItems (margin ++ "    ") items)
    else unsizedText
  | .record members _ =>
    bracketLines "\x7b" "\x7d" margin (spreadMembers (margin ++ "    ") members)
  | .object .space _ _ members =>
    bracketLines "\x7b" "\x7d" margin (spreadMembers (margin ++ "    ") members)
  | v => v.inner

/-- The items of a list over several lines. -/
def spreadItems (margin : String) : List Value → List String
  | [] => []
  | v :: rest => spread margin v :: spreadItems margin rest

/-- The members of a record over several lines. -/
def spreadMembers (margin : String) : List (Value × Value) → List String
  | [] => []
  | (key, v) :: rest =>
    (spread margin key ++ ": " ++ spread margin v) :: spreadMembers margin rest
end

/-- A character of a text where markup has to be kept apart. -/
def escapedChar : Char → List Char
  | '<' => "&lt;".toList
  | '>' => "&gt;".toList
  | '&' => "&amp;".toList
  | '"' => "&quot;".toList
  | '\x27' => "&#x27;".toList
  | '/' => "&#x2f;".toList
  | c => [c]

/-- A text without the signs of markup. -/
def escapeMarkup (s : String) : String := String.ofList (s.toList.flatMap escapedChar)

/-- A value as text without the signs of markup, unless it is safe. -/
def printEscaped : Value → String
  | .text s true => s
  | v => escapeMarkup v.print

-- ---------------------------------------------------------------------------
-- Parts
-- ---------------------------------------------------------------------------

/-- The kinds of values, in the order in which values of different kinds are sorted. -/
inductive Kind where
  | undefined | nothing | truth | number | text | list | record | series | plain
  deriving DecidableEq, Inhabited, Repr

/-- The kind of a value. -/
def kind : Value → Kind
  | .undefined => .undefined
  | .nothing => .nothing
  | .truth _ => .truth
  | .whole _ | .real _ => .number
  | .text _ _ => .text
  | .list _ | .group _ _ => .list
  | .record _ _ => .record
  | .series _ _ => .series
  | .function _ => .plain
  | .object kind _ _ _ => if kind = .routine then .plain else .record

/-- The place of a kind among all kinds. -/
def Kind.rank : Kind → Nat
  | .undefined => 0
  | .nothing => 1
  | .truth => 2
  | .number => 3
  | .text => 4
  | .list => 5
  | .record => 6
  | .series => 7
  | .plain => 8

/-- The members of a record, or of an object that has some. -/
def members? : Value → Option (List (Value × Value))
  | .record members _ => some members
  | .object kind _ _ members => if kind = .routine then none else some members
  | _ => none

/-- What a loop runs over: items, the characters of a text, or the keys of a record. -/
def items? : Value → Option (List Value)
  | .undefined | .nothing => some []
  | .text s _ => some (s.toList.map ofChar)
  | .list items | .series items _ => some items
  | .group key items => some [key, items]
  | v => v.members?.map fun members => members.map Prod.fst

/-- How many items, members or characters a value has. -/
def length? : Value → Option Nat
  | .text s _ => some s.length
  | .list items => some items.length
  | .series items sized => if sized then some items.length else none
  | .group _ _ => some 2
  | v => v.members?.map List.length

/-- A value counts as true unless it is empty, zero, false or missing. -/
def isTrue : Value → Bool
  | .undefined | .nothing => false
  | .truth b => b
  | .whole n => n ≠ 0
  | .real d => d.magnitude ≠ 0
  | .text s _ => !s.isEmpty
  | .list items => !items.isEmpty
  | .series items sized => !(sized && items.isEmpty)
  | .record members _ => !members.isEmpty
  | .object kind _ _ members => kind != .space || !members.isEmpty
  | .group _ _ | .function _ => true

end Value

end Errand.Template
