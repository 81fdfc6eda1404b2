import Errand.Number.Decimal

/-!
# Errand — structured values

The value type of JSON. A number keeps whether it was written as a whole
number of 64 bits or as a double; an object keeps its members sorted by name
and without duplicates, the later of two winning.

* `Json.Number`   — a 64-bit integer or a double.
* `Json`          — the values.
* `Json.ofMembers` — an object from members in any order.
* `Json.get?`     — a member of an object, by name.
-/

namespace Errand

/-- A number: an integer of 64 bits, signed or unsigned, or a double. -/
inductive Json.Number where
  | int (n : Int)
  | double (d : Number.Double)
  deriving DecidableEq, Inhabited

/-- A structured value. -/
inductive Json where
  | null
  | bool (b : Bool)
  | number (n : Json.Number)
  | string (s : String)
  | array (items : List Json)
  | object (members : List (String × Json))
  deriving Inhabited

namespace Json

-- ---------------------------------------------------------------------------
-- Objects
-- ---------------------------------------------------------------------------

/-- Puts a member in its place by name; a member of that name gives way. -/
def insertMember (name : String) (value : Json) : List (String × Json) → List (String × Json)
  | [] => [(name, value)]
  | (other, old) :: rest =>
    if name = other then (name, value) :: rest
    else if name < other then (name, value) :: (other, old) :: rest
    else (other, old) :: insertMember name value rest

/-- The object with these members; of two with one name the later stays. -/
def ofMembers (members : List (String × Json)) : Json :=
  .object (members.foldl (fun sorted (name, value) => insertMember name value sorted) [])

/-- The member of this name in a list of members. -/
def member? (name : String) (members : List (String × Json)) : Option Json :=
  (members.find? fun entry => entry.1 = name).map Prod.snd

/-- The member of this name, if the value is an object that has one. -/
def get? (name : String) : Json → Option Json
  | .object members => member? name members
  | _ => none

/-- A member just put in is found. -/
theorem member?_insertMember_self (name : String) (value : Json)
    (members : List (String × Json)) :
    member? name (insertMember name value members) = some value := by
  induction members with
  | nil => simp [insertMember, member?]
  | cons entry rest ih =>
    obtain ⟨other, old⟩ := entry
    unfold insertMember
    split
    · simp [member?]
    · rename_i hNe
      split
      · simp [member?]
      · simpa [member?, Ne.symm hNe] using ih

-- ---------------------------------------------------------------------------
-- Views
-- ---------------------------------------------------------------------------

/-- The value is `null`. -/
def isNull : Json → Bool
  | .null => true
  | _ => false

/-- The text of a string. -/
def asString? : Json → Option String
  | .string s => some s
  | _ => none

/-- The truth value of a Boolean. -/
def asBool? : Json → Option Bool
  | .bool b => some b
  | _ => none

/-- The items of an array. -/
def asArray? : Json → Option (List Json)
  | .array items => some items
  | _ => none

/-- The members of an object. -/
def asObject? : Json → Option (List (String × Json))
  | .object members => some members
  | _ => none

end Json

end Errand
