import Errand.Template.Function

/-!
# Errand — the value of an expression

Names that are not in scope are undefined. Of `and`, `or` and the inline `if`
only what is needed is evaluated, and so of comparisons in a row. A call by a
name is a call of a function, unless the name stands for the innermost loop.

* `Expr.eval` — the value of an expression.
* `assign`    — a value assigned to a target.
-/

namespace Errand.Template

-- ---------------------------------------------------------------------------
-- Arguments
-- ---------------------------------------------------------------------------

/-- The values by place and by name that one evaluated argument stands for. -/
def passed (role : Role) (v : Value) : Option (List Value × List (Value × Value)) :=
  match role with
  | .plain => some ([v], [])
  | .named n => some ([], [(.ofText n, v)])
  | .spread => v.items?.map fun items => (items, [])
  | .spreadNamed => v.members?.map fun members => ([], members)

/-- The values of a call's arguments; those named are in a record behind all others. -/
def gather (roles : List Role) (vs : List Value) (given : Option Value) : Option (List Value) := do
  let parts ← (roles.zip vs).mapM fun (role, v) => passed role v
  let placed := (parts.map Prod.fst).flatten
  let named := (parts.map Prod.snd).flatten ++
    (given.map fun v => (Value.ofText "caller", v)).toList
  if given.isNone ∧ !roles.any Role.isNamed then some placed
  else some (placed ++ [.record (Value.sortMembers named) true])

-- ---------------------------------------------------------------------------
-- Expressions
-- ---------------------------------------------------------------------------

mutual
/-- The value of an expression; if it is a call, a given value is passed under `caller`. -/
def Expr.eval (invoke : Call → Eval Value) (given : Option Value) : Expr → Eval Value
  | .text s => pure (.ofText s)
  | .whole n => pure (.ofNat n)
  | .real d => pure (.real d)
  | .truth b => pure (.truth b)
  | .nothing => pure .nothing
  | .missing => pure .undefined
  | .var name => do
    let s ← get
    pure ((s.lookup name).getD .undefined)
  | .list es => do
    let vs ← evalAll invoke es
    pure (.list vs)
  | .record es => do
    let vs ← evalAll invoke es
    let pairs := (List.range (vs.length / 2)).map fun i =>
      ((vs[2 * i]?).getD .undefined, (vs[2 * i + 1]?).getD .undefined)
    pure (.record (Value.sortMembers pairs) false)
  | .binary op left right => do
    let a ← left.eval invoke none
    let b ← right.eval invoke none
    Value.operate op a b
  | .chain first ops others => do
    let a ← first.eval invoke none
    evalChain invoke a ops others
  | .both left right => do
    let a ← left.eval invoke none
    if a.isTrue then right.eval invoke none else pure a
  | .either left right => do
    let a ← left.eval invoke none
    if a.isTrue then pure a else right.eval invoke none
  | .not e => do
    let v ← e.eval invoke none
    pure (.truth !v.isTrue)
  | .neg e => do
    let v ← e.eval invoke none
    v.negate
  | .choice condition yes no => do
    let v ← condition.eval invoke none
    if v.isTrue then yes.eval invoke none else no.eval invoke none
  | .dot e name => do
    let v ← e.eval invoke none
    v.namedPart name
  | .index e key => do
    let v ← e.eval invoke none
    let k ← key.eval invoke none
    v.index k
  | .slice e start stop step => do
    let v ← e.eval invoke none
    let a ← start.eval invoke none
    let b ← stop.eval invoke none
    let c ← step.eval invoke none
    v.slice a b c
  | .filter e name roles args => do
    let v ← e.eval invoke none
    let vs ← evalAll invoke args
    let passed ← (gather roles vs none : Option _)
    v.filter name passed
  | .test e name roles args => do
    let v ← e.eval invoke none
    let vs ← evalAll invoke args
    let passed ← (gather roles vs none : Option _)
    let result ← (v.test name passed : Option _)
    pure (.truth result)
  | .call (.var name) roles args => do
    let vs ← evalAll invoke args
    let passed ← (gather roles vs given : Option _)
    if name = "loop" then
      match passed with
      | [items] => invoke (.again items)
      | _ => failure
    else
      let s ← get
      callValue invoke ((s.lookup name).getD .undefined) passed
  | .call (.dot (.var "self") name) _ _ => invoke (.block name)
  | .call (.dot e name) roles args => do
    let v ← e.eval invoke none
    let vs ← evalAll invoke args
    let passed ← (gather roles vs given : Option _)
    callMethod invoke v name passed
  | .call e roles args => do
    let v ← e.eval invoke none
    let vs ← evalAll invoke args
    let passed ← (gather roles vs given : Option _)
    callValue invoke v passed

/-- The values of some expressions. -/
def evalAll (invoke : Call → Eval Value) : List Expr → Eval (List Value)
  | [] => pure []
  | e :: rest => do
    let v ← e.eval invoke none
    let vs ← evalAll invoke rest
    pure (v :: vs)

/-- Comparisons in a row, up to the first that does not hold. -/
def evalChain (invoke : Call → Eval Value) (a : Value) (ops : List Operator) :
    List Expr → Eval Value
  | [] => pure (.truth true)
  | e :: rest => do
    let b ← e.eval invoke none
    let result ← (Value.operate (ops.headD .eq) a b : Option _)
    if result.isTrue && !rest.isEmpty then evalChain invoke b ops.tail rest else pure result
end

-- ---------------------------------------------------------------------------
-- Assignment
-- ---------------------------------------------------------------------------

/-- The parts of a value that several targets are assigned to, which has to have as many. -/
def unpacked? (v : Value) (count : Nat) : Option (List Value) :=
  match v.kind with
  | .list | .record | .series => v.items?.filter fun items => items.length = count
  | _ => none

/-- A value as a member of a space. -/
def putInSpace (name : String) (v : Value) : Value → Eval Unit
  | .object .space id _ _ =>
    modify fun s =>
      { s with spaces := s.spaces.modify id (Value.putMember (.ofText name) v) }
  | _ => failure

mutual
/-- A value assigned to a target. -/
def Target.assign (invoke : Call → Eval Value) (v : Value) : Target → Eval Unit
  | .name n => modify (Scene.store n v)
  | .member e name => do
    let space ← e.eval invoke none
    putInSpace name v space
  | .parts ts => do
    let vs ← (unpacked? v ts.length : Option _)
    assignAll invoke vs ts

/-- Values assigned to targets one by one. -/
def assignAll (invoke : Call → Eval Value) (vs : List Value) : List Target → Eval Unit
  | [] => pure ()
  | t :: rest => do
    t.assign invoke (vs.headD .undefined)
    assignAll invoke vs.tail rest
end

/-- Filters applied to a value one after the other. -/
def applyFilters (invoke : Call → Eval Value) (v : Value) : List FilterCall → Eval Value
  | [] => pure v
  | f :: rest => do
    let vs ← evalAll invoke f.args
    let passed ← (gather f.roles vs none : Option _)
    let next ← (v.filter f.name passed : Option _)
    applyFilters invoke next rest

end Errand.Template
