import Errand.Template.Tree

/-!
# Errand — the names that a routine takes from its surroundings

A routine keeps the values of the names that it uses without assigning to them
first. A name that is assigned to inside a body with a scope of its own counts
as assigned there only.

* `Expr.names`    — the names in an expression that are not bound.
* `freeNames`     — the names that a routine takes from its surroundings.
-/

namespace Errand.Template

mutual
/-- The names in an expression that are not bound. -/
def Expr.names (bound : List String) : Expr → List String
  | .var n => if bound.contains n then [] else [n]
  | .list es | .record es => namesOf bound es
  | .binary _ a b | .both a b | .either a b | .index a b => a.names bound ++ b.names bound
  | .chain e _ es => e.names bound ++ namesOf bound es
  | .not e | .neg e | .dot e _ => e.names bound
  | .choice a b c => a.names bound ++ (b.names bound ++ c.names bound)
  | .slice a b c d => a.names bound ++ (b.names bound ++ (c.names bound ++ d.names bound))
  | .filter e _ _ es | .test e _ _ es | .call e _ es => e.names bound ++ namesOf bound es
  | _ => []

/-- The names in some expressions that are not bound. -/
def namesOf (bound : List String) : List Expr → List String
  | [] => []
  | e :: rest => e.names bound ++ namesOf bound rest
end

mutual
/-- The names that a target binds. -/
def Target.bound : Target → List String
  | .name n => [n]
  | .member _ _ => []
  | .parts ts => boundBy ts

/-- The names that some targets bind. -/
def boundBy : List Target → List String
  | [] => []
  | t :: rest => t.bound ++ boundBy rest
end

mutual
/-- The names that are used to find what a target belongs to. -/
def Target.names (bound : List String) : Target → List String
  | .name _ => []
  | .member e _ => e.names bound
  | .parts ts => targetNames bound ts

/-- The names that are used to find what some targets belong to. -/
def targetNames (bound : List String) : List Target → List String
  | [] => []
  | t :: rest => t.names bound ++ targetNames bound rest
end

/-- The names in the values of some bindings, each of which binds its target for the next. -/
def bindingNames (bound : List String) :
    List (Target × Expr) → List String × List String
  | [] => ([], bound)
  | (t, e) :: rest =>
    let inner := t.bound ++ bound
    let (names, inner') := bindingNames inner rest
    (e.names inner ++ names, inner')

/-- The names in what stands for parameters that are not given. -/
def defaultNames (bound : List String) (ps : List Parameter) : List String :=
  ps.flatMap fun p => (p.default.map (Expr.names bound)).getD []

mutual
/-- The names in a node that are not bound, and the names that are bound after it. -/
def Node.names (bound : List String) : Node → List String × List String
  | .text _ | .elsewhere | .inclusion _ _ => ([], bound)
  | .output e | .perform e => (e.names bound, bound)
  | .assign t e =>
    let inner := t.bound ++ bound
    (t.names bound ++ e.names inner, inner)
  | .capture t _ body =>
    let inner := t.bound ++ bound
    (t.names bound ++ (bodyNames inner body).1, inner)
  | .branch condition yes no =>
    (condition.names bound ++ ((bodyNames bound yes).1 ++ (bodyNames bound no).1), bound)
  | .loop t items keep _ body otherwise =>
    let outer := "loop" :: bound
    let inner := t.bound ++ outer
    let kept := (keep.map (Expr.names inner)).getD []
    (items.names outer ++ (kept ++ ((bodyNames inner body).1 ++ (bodyNames bound otherwise).1)),
      bound)
  | .scope bindings body =>
    let (names, inner) := bindingNames bound bindings
    (names ++ (bodyNames inner body).1, bound)
  | .escaping _ body | .filtered _ body => ((bodyNames bound body).1, bound)
  | .block _ body => ((bodyNames ("super" :: bound) body).1, bound)
  | .routine n ps body =>
    let inner := ps.map Parameter.name ++ n :: bound
    let (names, after) := bodyNames inner body
    (defaultNames inner ps ++ names, after)
  | .callWith call ps body =>
    let inner := ps.map Parameter.name ++ bound
    let (names, after) := bodyNames inner body
    (call.names bound ++ (defaultNames inner ps ++ names), after)

/-- The names in a body that are not bound, and the names that are bound after it. -/
def bodyNames (bound : List String) : List Node → List String × List String
  | [] => ([], bound)
  | n :: rest =>
    let (here, inner) := n.names bound
    let (more, after) := bodyNames inner rest
    (here ++ more, after)
end

/-- The names that a routine takes from its surroundings, each once. -/
def freeNames (ps : List Parameter) (body : List Node) : List String :=
  let bound := ps.map Parameter.name
  (defaultNames bound ps ++ (bodyNames bound body).1).eraseDups

end Errand.Template
