import Errand.Template.Argument
import Errand.Text.Classes

/-!
# Errand — the tests of a template

Tests tell by their names whether something is true of a value. An unknown
test and a wrong number of arguments give nothing.

* `testNames`  — the names of the tests.
* `Value.test` — a test of a value.
-/

namespace Errand.Template

/-- The names of the tests. -/
def testNames : List String :=
  ["undefined", "defined", "none", "safe", "escaped", "boolean", "odd", "even", "divisibleby",
   "number", "integer", "int", "float", "string", "sequence", "iterable", "mapping",
   "startingwith", "endingwith", "lower", "upper", "sameas", "eq", "equalto", "==", "ne", "!=",
   "lt", "lessthan", "<", "le", "<=", "gt", "greaterthan", ">", "ge", ">=", "in", "true", "false",
   "filter", "test"]

/-- The names of the filters. -/
def filterNames : List String :=
  ["safe", "escape", "e", "lower", "upper", "title", "capitalize", "replace", "length", "count",
   "dictsort", "items", "reverse", "trim", "join", "split", "lines", "default", "d", "round",
   "abs", "int", "float", "attr", "first", "last", "min", "max", "sort", "list", "string", "bool",
   "batch", "slice", "sum", "indent", "select", "reject", "selectattr", "rejectattr", "map",
   "groupby", "unique", "chain", "zip", "pprint"]

namespace Value

/-- A whole number leaves this remainder when it is halved. -/
def halves (remainder : Int) (v : Value) : Bool :=
  v.integer?.any fun n => n % 2 = remainder

/-- A number is a multiple of another. -/
def isMultiple (v other : Value) : Bool :=
  match v.number?, other.number? with
  | some (.inl m), some (.inl n) => n ≠ 0 && m % n = 0
  | some a, some b =>
    match doubleOf? a, doubleOf? b with
    | some x, some y => (x.remainder y).magnitude = 0
    | _, _ => false
  | _, _ => false

/-- Two values are the same; lists and records that are written down are always new ones. -/
def isSame (v other : Value) : Bool :=
  match v, other with
  | .object k id _ _, .object l other _ _ => k = l && id = other
  | .whole m, .whole n => m = n
  | .whole _, _ | _, .whole _ => false
  | .function s, .function t => s = t
  | v, other => v.kind = other.kind && v.kind.rank ≤ Kind.text.rank && equal v other

/-- A test of a value without an argument. -/
def testAlone? (name : String) (v : Value) : Option Bool :=
  match name with
  | "defined" => some (v.kind != .undefined)
  | "undefined" => some (v.kind = .undefined)
  | "none" => some (v.kind = .nothing)
  | "safe" | "escaped" => some (match v with | .text _ safe => safe | _ => false)
  | "boolean" => some (v.kind = .truth)
  | "odd" => some (v.halves 1)
  | "even" => some (v.halves 0)
  | "number" => some (v.kind = .number)
  | "integer" | "int" => some (match v with | .whole _ => true | _ => false)
  | "float" => some (match v with | .real _ => true | _ => false)
  | "string" => some (v.kind = .text)
  | "sequence" => some (v.kind = .list)
  | "iterable" => some v.items?.isSome
  | "mapping" => some (v.kind = .record)
  | "lower" => v.textOf?.map fun s => s.toList.all Text.isLowercase
  | "upper" => v.textOf?.map fun s => s.toList.all Text.isUppercase
  | "true" => some (match v with | .truth b => b | _ => false)
  | "false" => some (match v with | .truth b => !b | _ => false)
  | "filter" => v.ownText?.map filterNames.contains
  | "test" => v.ownText?.map testNames.contains
  | _ => none

/-- A test of a value with one argument. -/
def testAgainst? (name : String) (v other : Value) : Option Bool :=
  match name with
  | "divisibleby" => some (v.isMultiple other)
  | "startingwith" => do
    let s ← v.textOf?
    let start ← other.textOf?
    some (start.toList.isPrefixOf s.toList)
  | "endingwith" => do
    let s ← v.textOf?
    let stop ← other.textOf?
    some (stop.toList.isSuffixOf s.toList)
  | "sameas" => some (v.isSame other)
  | "eq" | "equalto" | "==" => some (equal v other)
  | "ne" | "!=" => some (!equal v other)
  | "lt" | "lessthan" | "<" => some (isBefore v other)
  | "le" | "<=" => some (!isBefore other v)
  | "gt" | "greaterthan" | ">" => some (isBefore other v)
  | "ge" | ">=" => some (!isBefore v other)
  | "in" => some ((occursIn? v other).getD false)
  | _ => none

/-- A test of a value, by the test's name. -/
def test (name : String) (v : Value) (args : List Value) : Option Bool :=
  match args with
  | [] => v.testAlone? name
  | [other] => v.testAgainst? name other
  | _ => none

end Value

end Errand.Template
