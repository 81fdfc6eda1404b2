import Errand.Json.Printer

/-!
# Errand — the format of an agent's result

Which values the known fields of a result may have, and the complete list of
what is wrong with a value. A field that is absent, or that the format does
not know, is never wrong.

* `Kind`, `Scalar`, `FieldFormat` — the vocabulary of the format.
* `resultFields`                  — the known fields, by name.
* `violations`                    — every fault of a value, in order.
-/

namespace Errand.ResultFormat

-- ---------------------------------------------------------------------------
-- Kinds of value
-- ---------------------------------------------------------------------------

/-- The kinds of value that a format distinguishes. -/
inductive Kind where
  | array
  | boolean
  | integer
  | null
  | number
  | object
  | string
  deriving DecidableEq, Repr

/-- The name of a kind. -/
def Kind.name : Kind → String
  | .array => "array"
  | .boolean => "boolean"
  | .integer => "integer"
  | .null => "null"
  | .number => "number"
  | .object => "object"
  | .string => "string"

/-- A value is of a kind; a double without fraction counts as an integer. -/
def Kind.admits : Kind → Json → Bool
  | .array, .array _ => true
  | .boolean, .bool _ => true
  | .integer, .number (.int _) => true
  | .integer, .number (.double d) => d.isWhole
  | .null, .null => true
  | .number, .number _ => true
  | .object, .object _ => true
  | .string, .string _ => true
  | _, _ => false

/-- A number below zero. -/
def isBelowZero : Json → Bool
  | .number (.int n) => n < 0
  | .number (.double d) => d.isBelowZero
  | _ => false

-- ---------------------------------------------------------------------------
-- Faults
-- ---------------------------------------------------------------------------

/-- One fault of a value. -/
inductive Violation where
  /-- A count or duration below zero. -/
  | belowZero (value : Json)
  /-- A value of none of the kinds allowed. -/
  | wrongKind (value : Json) (allowed : List Kind)

/-- A kind's name between quotes. -/
def Kind.quoted (k : Kind) : String := "\"" ++ k.name ++ "\""

/-- The line that reports a fault, which starts with the value at fault. -/
def Violation.message : Violation → String
  | .belowZero v => v.compact ++ " is less than the minimum of 0"
  | .wrongKind v [k] => v.compact ++ " is not of type " ++ k.quoted
  | .wrongKind v ks =>
    v.compact ++ " is not of types " ++ String.intercalate ", " (ks.map Kind.quoted)

-- ---------------------------------------------------------------------------
-- Formats
-- ---------------------------------------------------------------------------

/-- What a value without inner structure may be. -/
structure Scalar where
  kinds : List Kind
  atLeastZero : Bool := false

/-- The faults of a value against a scalar format: the bound first, then the kind. -/
def Scalar.violations (s : Scalar) (v : Json) : List Violation :=
  (if s.atLeastZero && isBelowZero v then [.belowZero v] else []) ++
  (if s.kinds.any fun k => k.admits v then [] else [.wrongKind v s.kinds])

/-- What a field of a result may be. -/
inductive FieldFormat where
  | anything
  | scalar (s : Scalar)
  /-- An array, or null, with a format for every item. -/
  | arrayOf (item : Scalar)
  /-- An array, or null, of objects with known members. -/
  | arrayOfObjects (members : List (String × Scalar))

/-- The faults of an object's known members, in the order of the list. -/
def memberViolations (members : List (String × Scalar)) (fields : List (String × Json)) :
    List Violation :=
  members.flatMap fun (name, s) =>
    match Json.member? name fields with
    | some v => s.violations v
    | none => []

/-- The faults of an item that has to be an object. -/
def objectViolations (members : List (String × Scalar)) : Json → List Violation
  | .object fields => memberViolations members fields
  | v => [.wrongKind v [.object]]

/-- A field that holds a list may be null instead. -/
def listKinds : List Kind := [.array, .null]

/-- The faults of a field's value. -/
def FieldFormat.violations : FieldFormat → Json → List Violation
  | .anything, _ => []
  | .scalar s, v => s.violations v
  | .arrayOf item, .array items => items.flatMap item.violations
  | .arrayOfObjects members, .array items => items.flatMap (objectViolations members)
  | .arrayOf _, v | .arrayOfObjects _, v => Scalar.violations ⟨listKinds, false⟩ v

-- ---------------------------------------------------------------------------
-- The format of a result
-- ---------------------------------------------------------------------------

/-- A text or null. -/
def optionalText : Scalar := ⟨[.null, .string], false⟩

/-- A truth value or null. -/
def optionalFlag : Scalar := ⟨[.boolean, .null], false⟩

/-- The known members of a discovered issue, by name. -/
def issueMembers : List (String × Scalar) :=
  [("description", optionalText),
   ("priority", ⟨[.integer, .null, .string], false⟩),
   ("title", optionalText),
   ("type", optionalText)]

/-- The known fields of a result, by name. -/
def resultFields : List (String × FieldFormat) :=
  [("converged", .scalar optionalFlag),
   ("decomposition", .anything),
   ("discovered_issues", .arrayOfObjects issueMembers),
   ("duration_seconds", .scalar ⟨[.null, .number], true⟩),
   ("error", .scalar optionalText),
   ("files_modified", .arrayOf ⟨[.string], false⟩),
   ("iterations", .scalar ⟨[.integer, .null], true⟩),
   ("message", .scalar optionalText),
   ("punted_items", .arrayOf ⟨[.string], false⟩),
   ("quality_gates", .scalar ⟨[.null, .object], false⟩),
   ("status", .scalar optionalText),
   ("success", .scalar optionalFlag),
   ("summary", .scalar optionalText)]

/-- Every fault of a value as a result: field by field, or that it is no object. -/
def violations : Json → List Violation
  | .object fields =>
    resultFields.flatMap fun (name, format) =>
      match Json.member? name fields with
      | some v => format.violations v
      | none => []
  | v => [.wrongKind v [.object]]

end Errand.ResultFormat
