import Errand.Template.Scene

/-!
# Errand — calling functions and the methods of objects

The functions that are there from the start, and the methods of loops. What
runs a part of the template is left to the rendering: a routine, a block, or
the body of a loop that calls itself.

* `Call`          — a call that runs a part of the template.
* `callFunction`  — a function applied to its arguments.
* `callMethod`    — a method of an object.
-/

namespace Errand.Template

/-- A call that runs a part of the template. -/
inductive Call where
  | routine (id : Nat) (args : List Value)
  | block (name : String)
  /-- The innermost loop once more, over other items. -/
  | again (items : Value)

/-- The most items that a range may have. -/
def maxRange : Nat := 100000

/-- A bound of a range. -/
def rangeBound? (v : Value) : Option Nat := v.size?.filter (· < Nat.pow 2 32)

/-- The numbers of a range by steps. -/
def range? (args : List Value) : Option Value := do
  let first ← args.head?.bind rangeBound?
  let second ← Arguments.optional rangeBound? args[1]?
  let step ← Arguments.optional rangeBound? args[2]?
  let step := step.getD 1
  let (start, stop) := match second with
    | some stop => (first, stop)
    | none => (0, first)
  if 3 < args.length ∨ step = 0 then none
  else
    let count := (stop - start + step - 1) / step
    if maxRange < count then none
    else some (.series ((List.range count).map fun i => .ofNat (start + i * step)) true)

/-- A record with the members of another and those named. -/
def dictionary? (args : List Value) : Option Value := do
  let a := Arguments.ofList args
  let given ← match a.placed with
    | [] => some []
    | [v] => match Arguments.given? (some v) with
      | some v => v.members?
      | none => some []
    | _ => none
  some (.record (Value.sortMembers (given ++ a.named)) false)

/-- The members that a space starts with, which have names. -/
def spaceMembers? (args : List Value) : Option (List (Value × Value)) :=
  match args with
  | [] => some []
  | [v] =>
    match Arguments.given? (some v) with
    | some v => v.members?.filter fun members => members.all fun entry => entry.1.kind = .text
    | none => some []
  | _ => none

/-- A function applied to its arguments. -/
def callFunction (name : String) (args : List Value) : Eval Value := do
  match name with
  | "range" => range? args
  | "dict" => dictionary? args
  | "namespace" =>
    let members ← (spaceMembers? args : Option _)
    Eval.newSpace members
  | "debug" =>
    match args with
    | [] => failure
    | [v] => pure (.ofText (v.spread ""))
    | vs => pure (.ofText ((Value.list vs).spread ""))
  | _ => failure

/-- A value applied to its arguments. -/
def callValue (invoke : Call → Eval Value) (callee : Value) (args : List Value) : Eval Value :=
  match callee with
  | .function name => callFunction name args
  | .object .routine id _ _ => invoke (.routine id args)
  | _ => failure

/-- The given values differ from those of the last time. -/
def changed (id : Nat) (args : List Value) : Eval Value := do
  let s ← get
  let t ← s.turns[id]?
  let same := t.marked.any fun old => Value.equal (.list old) (.list args)
  set { s with turns := s.turns.setIfInBounds id { t with marked := some args } }
  pure (.truth !same)

/-- The value whose turn it is. -/
def cycled (id : Nat) (args : List Value) : Eval Value := do
  let s ← get
  let t ← s.turns[id]?
  if args.isEmpty then failure
  pure ((args[t.index % args.length]?).getD .undefined)

/-- A method of an object, which may be a member that can be called. -/
def callMethod (invoke : Call → Eval Value) (v : Value) (name : String) (args : List Value) :
    Eval Value :=
  match v with
  | .object .turn id _ _ =>
    if name = "changed" then changed id args
    else if name = "cycle" then cycled id args
    else failure
  | .object _ _ _ members | .record members _ =>
    match Value.memberNamed? name members with
    | some callee => callValue invoke callee args
    | none => failure
  | _ => failure

end Errand.Template
