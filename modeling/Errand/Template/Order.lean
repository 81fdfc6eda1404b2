import Errand.Template.Value

/-!
# Errand — equality and order of a template's values

Values of every two kinds can be compared. Numbers are equal by what they
stand for, truth values counting as zero and one, and a whole number that no
double equals is equal to no double. In order, the kind comes first.

* `Value.equal`    — two values are equal.
* `Value.order`    — which of two values comes first.
* `Value.member?`  — the member of a record with a key.
* `Value.putMember` — a record's members with one more.
-/

namespace Errand.Template

open Errand.Number (Double)

namespace Value

-- ---------------------------------------------------------------------------
-- Numbers
-- ---------------------------------------------------------------------------

/-- A number, whole or with a fraction; a truth value counts as zero or one. -/
def number? : Value → Option (Int ⊕ Double)
  | .truth b => some (.inl b.toNat)
  | .whole n => some (.inl n)
  | .real d => some (.inr d)
  | _ => none

/-- The largest whole numbers of 64 and of 128 bits, which count as the powers of two above them. -/
def largestWholes : List Int := [Nat.pow 2 64 - 1, Nat.pow 2 128 - 1]

/-- The double that equals a whole number, if there is one. -/
def exactDouble? (n : Int) : Option Double :=
  let d := Double.ofInt n
  if d.toInt? = some n ∨ largestWholes.contains n then some d else none

/-- The double that equals a number, if there is one. -/
def doubleOf? : Int ⊕ Double → Option Double
  | .inl n => exactDouble? n
  | .inr d => some d

/-- Two numbers are equal. -/
def equalNumbers : Int ⊕ Double → Int ⊕ Double → Bool
  | .inl m, .inl n => m = n
  | a, b =>
    match doubleOf? a, doubleOf? b with
    | some x, some y => x.sameNumber y
    | _, _ => false

/-- A number as a multiple of `2⁻¹⁰⁷⁴`; what is infinite or no number lies beyond all. -/
def unitsOf : Int ⊕ Double → Int
  | .inl n => n * Double.unitsPerOne
  | .inr d => d.units?.getD (d.orderKey * Double.unitsPerOne * Double.unitsPerOne)

/-- The order of two numbers, in which minus zero comes before zero. -/
def orderNumbers : Int ⊕ Double → Int ⊕ Double → Ordering
  | .inl m, .inl n => compare m n
  | a, b =>
    match doubleOf? a, doubleOf? b with
    | some x, some y => compare x.orderKey y.orderKey
    | _, _ => compare (unitsOf a) (unitsOf b)

-- ---------------------------------------------------------------------------
-- All values
-- ---------------------------------------------------------------------------

mutual
/-- Which of two values comes first. -/
def order (a b : Value) : Ordering :=
  match a, b with
  | .list xs, .list ys | .series xs _, .series ys _ => orderItems xs ys
  | .group k x, .group l y => (order k l).then (order x y)
  | .group k x, .list ys =>
    match ys with
    | [] => .gt
    | [l] => (order k l).then .gt
    | [l, y] => (order k l).then (order x y)
    | l :: y :: _ => (order k l).then ((order x y).then .lt)
  | .list xs, .group l y => orderItems xs [l, y]
  | .record xs _, b =>
    match b.members? with
    | some ys => orderMembers xs ys
    | none => compare Kind.record.rank b.kind.rank
  | .object k _ s xs, b =>
    match k, b.members? with
    | .routine, _ => if b.kind = .plain then compare s b.print else .lt
    | _, some ys => orderMembers xs ys
    | _, none => compare Kind.record.rank b.kind.rank
  | .function s, b => if b.kind = .plain then compare (functionText s) b.print else .gt
  | .text s _, .text t _ => compare s t
  | a, b =>
    if a.kind = b.kind then
      match a.number?, b.number? with
      | some x, some y => orderNumbers x y
      | _, _ => .eq
    else compare a.kind.rank b.kind.rank

/-- Which of two lists comes first, by their first items that differ. -/
def orderItems : List Value → List Value → Ordering
  | [], [] => .eq
  | [], _ :: _ => .lt
  | _ :: _, [] => .gt
  | x :: xs, y :: ys => (order x y).then (orderItems xs ys)

/-- Which of two records comes first, by their first members that differ. -/
def orderMembers : List (Value × Value) → List (Value × Value) → Ordering
  | [], [] => .eq
  | [], _ :: _ => .lt
  | _ :: _, [] => .gt
  | (k, v) :: xs, (l, w) :: ys => (order k l).then ((order v w).then (orderMembers xs ys))
end

/-- The member of a record with a key. -/
def member? (key : Value) (members : List (Value × Value)) : Option Value :=
  (members.find? fun entry => order key entry.1 = .eq).map Prod.snd

/-- The member of a record with a name. -/
def memberNamed? (name : String) (members : List (Value × Value)) : Option Value :=
  member? (ofText name) members

/-- Puts a member in its place by its key; the value of a key that is there already gives way. -/
def putMember (key value : Value) : List (Value × Value) → List (Value × Value)
  | [] => [(key, value)]
  | (other, old) :: rest =>
    match order key other with
    | .eq => (other, value) :: rest
    | .lt => (key, value) :: (other, old) :: rest
    | .gt => (other, old) :: putMember key value rest

/-- Members in the order of their keys; of two with one key the later stays. -/
def sortMembers (members : List (Value × Value)) : List (Value × Value) :=
  members.foldl (fun sorted (key, value) => putMember key value sorted) []

mutual
/-- Two values are equal. -/
def equal (a b : Value) : Bool :=
  match a, b with
  | .undefined, .undefined => true
  | .nothing, .nothing => true
  | .text s _, .text t _ => s = t
  | .list xs, .list ys | .series xs _, .series ys _ => equalItems xs ys
  | .group k x, .group l y => equal k l && equal x y
  | .group k x, .list [l, y] => equal k l && equal x y
  | .list [k, x], .group l y => equal k l && equal x y
  | .record xs _, b =>
    match b.members? with
    | some ys => xs.length = ys.length && equalMembers xs ys
    | none => false
  | .object k _ s xs, b =>
    match k, b.members? with
    | .routine, _ => b.kind = .plain && s = b.print
    | _, some ys => xs.length = ys.length && equalMembers xs ys
    | _, none => false
  | .function s, b => b.kind = .plain && functionText s = b.print
  | a, b =>
    match a.number?, b.number? with
    | some x, some y => equalNumbers x y
    | _, _ => false

/-- Two lists are equal item by item. -/
def equalItems : List Value → List Value → Bool
  | [], [] => true
  | x :: xs, y :: ys => equal x y && equalItems xs ys
  | _, _ => false

/-- Every member of one record equals the member of another with its key. -/
def equalMembers : List (Value × Value) → List (Value × Value) → Bool
  | [], _ => true
  | (k, v) :: xs, ys =>
    (match member? k ys with
      | some w => equal v w
      | none => false) && equalMembers xs ys
end

/-- The value comes before another, or after it. -/
def isBefore (a b : Value) : Bool := order a b = .lt

/-- The value is one of some others. -/
def isAmong (v : Value) (items : List Value) : Bool := items.any fun item => equal item v

end Value

end Errand.Template
