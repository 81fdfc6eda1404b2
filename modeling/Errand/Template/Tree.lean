import Errand.Number.Double

/-!
# Errand — expressions and statements of a template

The trees that templates are read into. Arguments of a call are a list of
expressions beside a list of the same length that tells how each is passed, so
expressions contain expressions only in lists.

* `Operator`, `Role` — operators, and the ways to pass an argument.
* `Expr`             — an expression.
* `Target`           — what a value is assigned to.
* `Node`             — a part of a template that is rendered.
-/

namespace Errand.Template

open Errand.Number (Double)

/-- An operator between two operands that are both evaluated. -/
inductive Operator where
  | add | sub | mul | div | floorDiv | rem | pow | concat
  | eq | ne | lt | le | gt | ge | member | absent
  deriving DecidableEq, Inhabited, Repr

/-- How an argument is passed: by its place, under a name, or as a list or record of arguments. -/
inductive Role where
  | plain
  | named (name : String)
  | spread
  | spreadNamed
  deriving DecidableEq, Inhabited, Repr

/-- The argument is passed under a name. -/
def Role.isNamed : Role → Bool
  | .named _ | .spreadNamed => true
  | _ => false

/-- An expression. -/
inductive Expr where
  | text (s : String)
  | whole (n : Nat)
  | real (d : Double)
  | truth (b : Bool)
  | nothing
  /-- What stands for a part that is not written. -/
  | missing
  | var (name : String)
  | list (items : List Expr)
  /-- Keys and values in turn. -/
  | record (parts : List Expr)
  | binary (op : Operator) (left right : Expr)
  /-- Comparisons in a row, which all have to hold. -/
  | chain (first : Expr) (ops : List Operator) (others : List Expr)
  | both (left right : Expr)
  | either (left right : Expr)
  | not (e : Expr)
  | neg (e : Expr)
  | choice (condition yes no : Expr)
  | dot (e : Expr) (name : String)
  | index (e key : Expr)
  | slice (e start stop step : Expr)
  | filter (e : Expr) (name : String) (roles : List Role) (args : List Expr)
  | test (e : Expr) (name : String) (roles : List Role) (args : List Expr)
  | call (callee : Expr) (roles : List Role) (args : List Expr)
  deriving Inhabited

/-- What a value is assigned to: a name, a member of a value, or its parts one by one. -/
inductive Target where
  | name (s : String)
  | member (of : Expr) (name : String)
  | parts (targets : List Target)
  deriving Inhabited

/-- A filter that is applied to some text, with its arguments. -/
structure FilterCall where
  name : String
  roles : List Role
  args : List Expr
  deriving Inhabited

/-- A name that a routine takes, with the expression for it when it is not given. -/
structure Parameter where
  name : String
  default : Option Expr
  deriving Inhabited

/-- A part of a template that is rendered. -/
inductive Node where
  | text (s : String)
  | output (e : Expr)
  | assign (target : Target) (e : Expr)
  | capture (target : Target) (filters : List FilterCall) (body : List Node)
  | branch (condition : Expr) (yes no : List Node)
  | loop (target : Target) (items : Expr) (keep : Option Expr) (recursive : Bool)
      (body otherwise : List Node)
  | scope (bindings : List (Target × Expr)) (body : List Node)
  | escaping (mode : Expr) (body : List Node)
  | filtered (filters : List FilterCall) (body : List Node)
  | block (name : String) (body : List Node)
  /-- Another template by its name; there is none, which may be allowed. -/
  | inclusion (name : Expr) (mayMiss : Bool)
  /-- A statement that needs another template to go on. -/
  | elsewhere
  | routine (name : String) (parameters : List Parameter) (body : List Node)
  /-- A call whose callee is given a routine named `caller`. -/
  | callWith (call : Expr) (parameters : List Parameter) (body : List Node)
  | perform (call : Expr)
  deriving Inhabited

end Errand.Template
