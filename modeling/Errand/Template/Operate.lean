import Errand.Template.Order
import Errand.Template.Tree
import Errand.Text.Blank

/-!
# Errand — operators on a template's values

Arithmetic on whole numbers of 128 bits and on doubles, joining and repeating
of texts and lists, access to parts, and slices. An operation that has no
meaning for its operands gives nothing, which fails the rendering as a whole.

* `Value.operate` — the binary operators.
* `Value.negate`  — the unary minus.
* `Value.index`   — the part that a key selects.
* `Value.slice`   — the part between two bounds.
-/

namespace Errand.Template

open Errand.Number (Double)

namespace Value

-- ---------------------------------------------------------------------------
-- Numbers and texts in values
-- ---------------------------------------------------------------------------

/-- A number of 128 bits with a sign. -/
def fits128 (n : Int) : Bool := -(Nat.pow 2 127 : Int) ≤ n && n < (Nat.pow 2 127 : Int)

/-- A number of 64 bits with a sign. -/
def fits64 (n : Int) : Bool := -(Nat.pow 2 63 : Int) ≤ n && n < (Nat.pow 2 63 : Int)

/-- The whole number of 128 bits that a value stands for; a double of 64 bits without a fraction
is one. -/
def integer? : Value → Option Int
  | .truth b => some b.toNat
  | .whole n => if fits128 n then some n else none
  | .real d => d.toInt?.filter fits64
  | _ => none

/-- The whole number of 64 bits that a value stands for. -/
def position? (v : Value) : Option Int := v.integer?.filter fits64

/-- The count that a value stands for. -/
def size? (v : Value) : Option Nat :=
  (v.integer?.filter fun n => 0 ≤ n ∧ n < (Nat.pow 2 64 : Int)).map Int.toNat

/-- The double nearest to a number. -/
def nearestDouble? (v : Value) : Option Double :=
  v.number?.map fun
    | .inl n => Double.ofInt n
    | .inr d => d

/-- The text of a text. -/
def ownText? : Value → Option String
  | .text s _ => some s
  | _ => none

/-- A value as the text of an argument; named arguments are none. -/
def textOf? : Value → Option String
  | .record _ true => none
  | v => some v.print

/-- The most characters or items that repetition yields. -/
def maxRepeated : Nat := Nat.pow 10 7

-- ---------------------------------------------------------------------------
-- Arithmetic
-- ---------------------------------------------------------------------------

/-- Arithmetic on two whole numbers of 128 bits if both are, else on two doubles. -/
def arithmetic (whole : Int → Int → Option Int) (real : Double → Double → Double)
    (a b : Value) : Option Value :=
  match a.number?, b.number? with
  | some (.inl m), some (.inl n) =>
    if fits128 m && fits128 n then ((whole m n).filter fits128).map .whole else none
  | some _, some _ => do
    let x ← a.nearestDouble?
    let y ← b.nearestDouble?
    some (.real (real x y))
  | _, _ => none

/-- The quotient that leaves a remainder of zero or more. -/
def quotient (m n : Int) : Option Int := if n = 0 then none else some (m / n)

/-- The remainder that is zero or more. -/
def remainder (m n : Int) : Option Int := if n = 0 then none else some (m % n)

/-- The power, where its size can be told in advance to fit 128 bits. -/
def power (m n : Int) : Option Int :=
  if n < 0 ∨ (Nat.pow 2 32 : Int) ≤ n then none
  else if m = 0 ∨ m = 1 then some (if n = 0 then 1 else m)
  else if m = -1 then some (if n % 2 = 0 then 1 else -1)
  else if n ≤ 127 then some (m.pow n.toNat)
  else none

/-- The items of a list or series. -/
def listed? : Value → Option (List Value)
  | .list items | .series items _ => some items
  | .group key items => some [key, items]
  | _ => none

/-- A list or series knows how many items it has. -/
def isSized : Value → Bool
  | .series _ sized => sized
  | _ => true

/-- The sum of numbers, and two texts or lists one after the other. -/
def add (a b : Value) : Option Value :=
  match a.listed?, b.listed? with
  | some xs, some ys => some (.series (xs ++ ys) (a.isSized && b.isSized))
  | _, _ =>
    match a, b with
    | .text s _, .text t _ => some (ofText (s ++ t))
    | a, b => arithmetic (fun m n => some (m + n)) Double.plus a b

/-- Copies of a text or a list, one after the other. -/
def copies (v : Value) (count : Value) : Option Value := do
  let n ← count.size?
  match v with
  | .text s _ =>
    if maxRepeated < n * s.length then none
    else some (ofText (String.join (List.replicate (if s.isEmpty then 0 else n) s)))
  | v =>
    let items ← v.listed?
    if !v.isSized ∨ maxRepeated < n * items.length then none
    else
      let times := if items.isEmpty then 0 else n
      some (.series ((List.replicate times items).flatten) true)

/-- The product of numbers, and a text or list so many times. -/
def multiply (a b : Value) : Option Value :=
  match a.ownText?, b.ownText?, a.listed?, b.listed? with
  | some _, _, _, _ => a.copies b
  | _, some _, _, _ => b.copies a
  | _, _, some _, _ => a.copies b
  | _, _, _, some _ => b.copies a
  | _, _, _, _ => arithmetic (fun m n => some (m * n)) Double.times a b

/-- The quotient as a double. -/
def divide (a b : Value) : Option Value := do
  let x ← a.nearestDouble?
  let y ← b.nearestDouble?
  some (.real (x.dividedBy y))

/-- A value occurs in a text, a list or a record; nothing occurs in what is undefined. -/
def occursIn? (v container : Value) : Option Bool :=
  match container with
  | .undefined => some false
  | .text s _ => some (Text.contains s.toList v.print.toList)
  | .function _ => some false
  | container =>
    match container.listed?, container.members? with
    | some items, _ => some (v.isAmong items)
    | _, some members => some (member? v members).isSome
    | _, _ => if container.kind = .plain then some false else none

/-- A binary operator applied to its operands. -/
def operate (op : Operator) (a b : Value) : Option Value :=
  match op with
  | .add => add a b
  | .sub => arithmetic (fun m n => some (m - n)) Double.minus a b
  | .mul => multiply a b
  | .div => divide a b
  | .floorDiv => arithmetic quotient Double.wholeQuotient a b
  | .rem => arithmetic remainder Double.remainder a b
  | .pow => arithmetic power Double.toThe a b
  | .concat => some (ofText (a.print ++ b.print))
  | .eq => some (.truth (equal a b))
  | .ne => some (.truth (!equal a b))
  | .lt => some (.truth (isBefore a b))
  | .ge => some (.truth (!isBefore a b))
  | .gt => some (.truth (isBefore b a))
  | .le => some (.truth (!isBefore b a))
  | .member => (occursIn? a b).map .truth
  | .absent => (occursIn? a b).map fun r => .truth !r

/-- The number with the other sign; the largest number of 127 bits more has one too. -/
def negate : Value → Option Value
  | .whole n => if fits128 (-n) && n ≤ (Nat.pow 2 127 : Int) then some (.whole (-n)) else none
  | .real d => some (.real d.neg)
  | _ => none

-- ---------------------------------------------------------------------------
-- Parts
-- ---------------------------------------------------------------------------

/-- The item at a position, counted from the end if it is negative. -/
def itemAt (items : List Value) (sized : Bool) (n : Int) : Value :=
  if 0 ≤ n then items[n.toNat]?.getD .undefined
  else if sized ∧ n.natAbs ≤ items.length then items[items.length - n.natAbs]?.getD .undefined
  else .undefined

/-- The part that a key selects; a missing part is undefined, a part of nothing an error. -/
def index (v key : Value) : Option Value :=
  match v with
  | .undefined => none
  | .text s _ =>
    some ((key.position?.map fun n => itemAt (s.toList.map ofChar) true n).getD .undefined)
  | .group k items =>
    match key with
    | .text "grouper" _ => some k
    | .text "list" _ => some items
    | key => some ((key.position?.map (itemAt [k, items] true)).getD .undefined)
  | .object _ _ _ members | .record members _ => some ((member? key members).getD .undefined)
  | v =>
    match v.listed?, key.position? with
    | some items, some n => some (itemAt items v.isSized n)
    | _, _ => some .undefined

/-- The part with a name. -/
def namedPart (v : Value) (name : String) : Option Value := index v (ofText name)

/-- The part at the end of a path of names and positions with points between them. -/
def follow (v : Value) (path : String) : Option Value :=
  (Text.splitOn (· = '.') path.toList).foldlM (fun v part =>
    if !part.isEmpty ∧ part.all Char.isDigit then
      index v (.whole (part.foldl (fun n c => n * 10 + (c.toNat - 48)) 0 : Nat))
    else namedPart v (String.ofList part)) v

/-- The part at the end of a path, or a value in place of a part that is missing. -/
def followOr (v : Value) (path : String) (default : Value) : Value :=
  match v.follow path with
  | none | some .undefined => default
  | some found => found

-- ---------------------------------------------------------------------------
-- Slices
-- ---------------------------------------------------------------------------

/-- A bound of a slice, if it is given; what is no number is an error. -/
def bound? : Value → Option (Option Int)
  | .nothing => some none
  | v => v.position?.map some

/-- A bound counted from the front; one that is before the front lies beyond the end instead. -/
def fromFront (length : Nat) (n : Int) : Nat :=
  if 0 ≤ n then n.toNat
  else if n.natAbs ≤ length then length - n.natAbs
  else Nat.pow 2 64 - n.natAbs + length

/-- Every `step`-th of some items. -/
def everyNth {α : Type} (step : Nat) (items : List α) : List α :=
  (items.zipIdx.filter fun entry => entry.2 % step = 0).map Prod.fst

/-- The items of a slice forwards. -/
def sliceForwards {α : Type} (items : List α) (length : Nat) (start : Int) (stop : Option Int)
    (step : Nat) : List α :=
  let first := fromFront length start
  let last := match stop with
    | some n => fromFront length n
    | none => length
  everyNth step ((items.drop first).take (last - first))

/-- The items of a slice backwards. -/
def sliceBackwards {α : Type} (items : List α) (start stop : Option Int) (step : Nat) : List α :=
  let length := items.length
  let first := match start with
    | none => length - 1
    | some n => if (length : Int) ≤ n then length - 1
      else if 0 ≤ n then n.toNat else length - n.natAbs
  let last := match stop with
    | none => 0
    | some n => if 0 ≤ n then n.toNat else length - n.natAbs
  let count := if last = 0 then (first + step) / step
    else if last ≤ first then (first - last + step - 1) / step else 0
  let part := ((items.drop last).take (first + 1 - last)).reverse
  (everyNth step part).take count

/-- The items of a slice. -/
def sliceItems {α : Type} (items : List α) (length : Nat) (start stop : Option Int) (step : Int) :
    List α :=
  if 0 ≤ step then sliceForwards items length (start.getD 0) stop step.toNat
  else sliceBackwards items start stop step.natAbs

/-- The part of a text or list between two bounds, by steps. -/
def slice (v start stop step : Value) : Option Value := do
  let start ← bound? start
  let stop ← bound? stop
  let step ← (bound? step).map fun n => n.getD 1
  if step = 0 then none
  else match v with
    | .undefined | .nothing => some (.list [])
    | .text s _ =>
      let cs := s.toList
      some (ofText (String.ofList (sliceItems cs cs.length start stop step)))
    | v =>
      let items ← v.listed?
      let length := if v.isSized then items.length else 0
      some (.series (sliceItems items length start stop step) v.isSized)

end Value

end Errand.Template
