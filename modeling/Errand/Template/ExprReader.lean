import Errand.Template.Token
import Errand.Template.Tree

/-!
# Errand — reading expressions of a template

An expression binds, from loosest to tightest: the inline `if`, `or`, `and`,
`not`, comparison, `+` and `-`, `~`, `*` and its kin, `**`, the unary minus,
and last access, calls, filters and tests. Expressions and statements may be
nested so deep and no deeper; `room` is how many levels are left.

* `Expr.front?` — the expression at the front of some words.
* `Expr.read?`  — the expression that some words are.
* `arguments`   — the arguments of a call.
-/

namespace Errand.Template

open Errand.Number (Double)

-- ---------------------------------------------------------------------------
-- Words in front
-- ---------------------------------------------------------------------------

/-- The words after a symbol, if it stands in front. -/
def symbol? (s : String) : List Token → Option (List Token)
  | .symbol t :: rest => if t = s then some rest else none
  | _ => none

/-- The words after a keyword, if it stands in front. -/
def keyword? (s : String) : List Token → Option (List Token)
  | .name t :: rest => if t = s then some rest else none
  | _ => none

/-- The operator of a symbol at one level of binding. -/
def operatorAt (table : List (String × Operator)) : List Token → Option (Operator × List Token)
  | .symbol s :: rest => (table.find? fun entry => entry.1 = s).map fun entry => (entry.2, rest)
  | _ => none

/-- The symbols of comparisons. -/
def comparisonSymbols : List (String × Operator) :=
  [("==", .eq), ("!=", .ne), ("<", .lt), ("<=", .le), (">", .gt), (">=", .ge)]

/-- A comparison, by its symbol or its keywords. -/
def comparison? (ts : List Token) : Option (Operator × List Token) :=
  match operatorAt comparisonSymbols ts with
  | some found => some found
  | none =>
    match ts with
    | .name "in" :: rest => some (.member, rest)
    | .name "not" :: .name "in" :: rest => some (.absent, rest)
    | _ => none

/-- The levels of binary operators, loosest first. -/
def levels : List (List (String × Operator)) :=
  [[("+", .add), ("-", .sub)], [("~", .concat)],
   [("*", .mul), ("/", .div), ("//", .floorDiv), ("%", .rem)], [("**", .pow)]]

/-- Comparisons in a row; one alone is an operator like any other. -/
def compared (first : Expr) (ops : List Operator) (others : List Expr) : Expr :=
  match ops, others with
  | [], _ => first
  | [op], [other] => .binary op first other
  | ops, others => .chain first ops others

/-- The text of quoted texts side by side, and the words after them. -/
def joinedTexts : List Token → String × List Token
  | .text s :: rest =>
    let (more, rest) := joinedTexts rest
    (s ++ more, rest)
  | ts => ("", ts)

/-- A word that a test without brackets may have as its argument. -/
def startsArgument : List Token → Bool
  | .name n :: _ => !(["and", "or", "else", "is"].contains n)
  | .text _ :: _ | .whole _ :: _ | .real _ :: _ => true
  | .symbol s :: _ => ["+", "-", "[", "\x7b"].contains s
  | [] => false

/-- An argument with the way it is passed. -/
abbrev Argument := Role × Expr

/-- The most arguments that a call may have. -/
def maxArguments : Nat := 2000

-- ---------------------------------------------------------------------------
-- Expressions
-- ---------------------------------------------------------------------------

mutual
/-- An expression at the next level of nesting. -/
def expression (fuel room : Nat) (ts : List Token) : Option (Expr × List Token) :=
  match fuel, room with
  | fuel + 1, room + 1 => conditional fuel room ts
  | _, _ => none

/-- An expression with its inline conditions. -/
def conditional (fuel room : Nat) (ts : List Token) : Option (Expr × List Token) :=
  match fuel with
  | 0 => none
  | fuel + 1 => do
    let (e, rest) ← disjunction fuel room ts
    conditions fuel room e rest

/-- The inline conditions after an expression. -/
def conditions (fuel room : Nat) (e : Expr) (ts : List Token) : Option (Expr × List Token) :=
  match fuel with
  | 0 => none
  | fuel + 1 =>
    match keyword? "if" ts with
    | none => some (e, ts)
    | some rest => do
      let (condition, rest) ← disjunction fuel room rest
      match keyword? "else" rest with
      | some rest =>
        let (other, rest) ← conditional fuel room rest
        conditions fuel room (.choice condition e other) rest
      | none => conditions fuel room (.choice condition e .missing) rest

/-- Operands of `or`. -/
def disjunction (fuel room : Nat) (ts : List Token) : Option (Expr × List Token) :=
  match fuel with
  | 0 => none
  | fuel + 1 => do
    let (e, rest) ← conjunction fuel room ts
    disjuncts fuel room e rest

/-- The operands of `or` after the first. -/
def disjuncts (fuel room : Nat) (e : Expr) (ts : List Token) : Option (Expr × List Token) :=
  match fuel with
  | 0 => none
  | fuel + 1 =>
    match keyword? "or" ts with
    | none => some (e, ts)
    | some rest => do
      let (next, rest) ← conjunction fuel room rest
      disjuncts fuel room (.either e next) rest

/-- Operands of `and`. -/
def conjunction (fuel room : Nat) (ts : List Token) : Option (Expr × List Token) :=
  match fuel with
  | 0 => none
  | fuel + 1 => do
    let (e, rest) ← negation fuel room ts
    conjuncts fuel room e rest

/-- The operands of `and` after the first. -/
def conjuncts (fuel room : Nat) (e : Expr) (ts : List Token) : Option (Expr × List Token) :=
  match fuel with
  | 0 => none
  | fuel + 1 =>
    match keyword? "and" ts with
    | none => some (e, ts)
    | some rest => do
      let (next, rest) ← negation fuel room rest
      conjuncts fuel room (.both e next) rest

/-- An operand of `not`. -/
def negation (fuel room : Nat) (ts : List Token) : Option (Expr × List Token) :=
  match fuel with
  | 0 => none
  | fuel + 1 =>
    match keyword? "not" ts with
    | some rest => (negation fuel room rest).map fun (e, rest) => (.not e, rest)
    | none => do
      let (e, rest) ← binary fuel room levels ts
      comparisons fuel room e [] [] rest

/-- The comparisons after an operand; those read so far are in reverse order. -/
def comparisons (fuel room : Nat) (first : Expr) (ops : List Operator) (others : List Expr)
    (ts : List Token) : Option (Expr × List Token) :=
  match fuel with
  | 0 => none
  | fuel + 1 =>
    match comparison? ts with
    | none => some (compared first ops.reverse others.reverse, ts)
    | some (op, rest) => do
      let (other, rest) ← binary fuel room levels rest
      comparisons fuel room first (op :: ops) (other :: others) rest

/-- Operands at a level of binary operators. -/
def binary (fuel room : Nat) (table : List (List (String × Operator))) (ts : List Token) :
    Option (Expr × List Token) :=
  match fuel with
  | 0 => none
  | fuel + 1 =>
    match table with
    | [] => unary fuel room ts
    | level :: tighter => do
      let (e, rest) ← binary fuel room tighter ts
      operands fuel room level tighter e rest

/-- The operands at a level after the first. -/
def operands (fuel room : Nat) (level : List (String × Operator))
    (tighter : List (List (String × Operator))) (e : Expr) (ts : List Token) :
    Option (Expr × List Token) :=
  match fuel with
  | 0 => none
  | fuel + 1 =>
    match operatorAt level ts with
    | none => some (e, ts)
    | some (op, rest) => do
      let (right, rest) ← binary fuel room tighter rest
      operands fuel room level tighter (.binary op e right) rest

/-- An operand with its sign, accesses, filters and tests. -/
def unary (fuel room : Nat) (ts : List Token) : Option (Expr × List Token) :=
  match fuel with
  | 0 => none
  | fuel + 1 => do
    let (e, rest) ← signedOperand fuel room ts
    let (e, rest) ← accesses fuel room e rest
    filters fuel room e rest

/-- A primary expression behind minus signs. -/
def signedOperand (fuel room : Nat) (ts : List Token) : Option (Expr × List Token) :=
  match fuel with
  | 0 => none
  | fuel + 1 =>
    match symbol? "-" ts with
    | some rest => (signedOperand fuel room rest).map fun (e, rest) => (.neg e, rest)
    | none => primary fuel room ts

/-- A name, a literal, a list, a record, or an expression in parentheses. -/
def primary (fuel room : Nat) (ts : List Token) : Option (Expr × List Token) :=
  match fuel, room, ts with
  | _ + 1, _ + 1, .name n :: rest =>
    if n = "true" ∨ n = "True" then some (.truth true, rest)
    else if n = "false" ∨ n = "False" then some (.truth false, rest)
    else if n = "none" ∨ n = "None" then some (.nothing, rest)
    else some (.var n, rest)
  | _ + 1, _ + 1, .text s :: rest =>
    let (more, rest) := joinedTexts rest
    some (.text (s ++ more), rest)
  | _ + 1, _ + 1, .whole n :: rest => some (.whole n, rest)
  | _ + 1, _ + 1, .real d :: rest => some (.real d, rest)
  | fuel + 1, room + 1, .symbol s :: rest =>
    if s = "(" then parenthesis fuel room rest
    else if s = "[" then
      (items fuel room "]" [] rest).map fun (found, rest) => (.list found, rest)
    else if s = "\x7b" then entries fuel room [] rest
    else none
  | _, _, _ => none

/-- An expression in parentheses, or a list with a comma, whose parenthesis has been read. -/
def parenthesis (fuel room : Nat) (ts : List Token) : Option (Expr × List Token) :=
  match fuel with
  | 0 => none
  | fuel + 1 =>
    match symbol? ")" ts with
    | some rest => some (.list [], rest)
    | none => do
      let (e, rest) ← expression fuel room ts
      match symbol? ")" rest with
      | some rest => some (e, rest)
      | none =>
        let rest ← symbol? "," rest
        let (found, rest) ← items fuel room ")" [e] rest
        some (.list found, rest)

/-- Expressions with commas between them, up to a closing symbol. -/
def items (fuel room : Nat) (close : String) (read : List Expr) (ts : List Token) :
    Option (List Expr × List Token) :=
  match fuel with
  | 0 => none
  | fuel + 1 =>
    match symbol? close ts with
    | some rest => some (read.reverse, rest)
    | none => do
      let (e, rest) ← expression fuel room ts
      match symbol? "," rest with
      | some rest => items fuel room close (e :: read) rest
      | none =>
        let rest ← symbol? close rest
        some ((e :: read).reverse, rest)

/-- The keys and values of a record whose brace has been read. -/
def entries (fuel room : Nat) (read : List Expr) (ts : List Token) :
    Option (Expr × List Token) :=
  match fuel with
  | 0 => none
  | fuel + 1 =>
    match symbol? "\x7d" ts with
    | some rest => some (.record read.reverse, rest)
    | none => do
      let (key, rest) ← expression fuel room ts
      let rest ← symbol? ":" rest
      let (value, rest) ← expression fuel room rest
      let read := value :: key :: read
      match symbol? "," rest with
      | some rest => entries fuel room read rest
      | none =>
        let rest ← symbol? "\x7d" rest
        some (.record read.reverse, rest)

/-- One argument of a call, after those that have been read. -/
def argument (fuel room : Nat) (read : List Argument) (ts : List Token) :
    Option (Argument × List Token) :=
  match fuel with
  | 0 => none
  | fuel + 1 =>
    match symbol? "**" ts with
    | some rest => do
      let (e, rest) ← expression fuel room rest
      some ((.spreadNamed, e), rest)
    | none =>
      match symbol? "*" ts with
      | some rest => do
        let (e, rest) ← expression fuel room rest
        some ((.spread, e), rest)
      | none => do
        let (e, rest) ← expression fuel room ts
        match e, symbol? "=" rest with
        | .var name, some rest =>
          let (value, rest) ← disjunction fuel room rest
          some ((.named name, value), rest)
        | e, _ =>
          if read.any fun argument => argument.1.isNamed then none
          else some ((.plain, e), rest)

/-- The arguments of a call whose parenthesis has been read. -/
def arguments (fuel room : Nat) (read : List Argument) (ts : List Token) :
    Option (List Argument × List Token) :=
  match fuel with
  | 0 => none
  | fuel + 1 =>
    match symbol? ")" ts with
    | some rest => some (read.reverse, rest)
    | none => do
      let (found, rest) ← argument fuel room read ts
      if read.length ≥ maxArguments then none
      else match symbol? "," rest with
        | some rest => arguments fuel room (found :: read) rest
        | none =>
          let rest ← symbol? ")" rest
          some ((found :: read).reverse, rest)

/-- Arguments in parentheses, if there are any. -/
def givenArguments (fuel room : Nat) (ts : List Token) : Option (List Argument × List Token) :=
  match fuel with
  | 0 => none
  | fuel + 1 =>
    match symbol? "(" ts with
    | some rest => arguments fuel room [] rest
    | none => some ([], ts)

/-- The accesses and calls after a primary expression. -/
def accesses (fuel room : Nat) (e : Expr) (ts : List Token) : Option (Expr × List Token) :=
  match fuel, ts with
  | 0, _ => none
  | fuel + 1, .symbol s :: rest =>
    if s = "." then
      match rest with
      | .name n :: rest => accesses fuel room (.dot e n) rest
      | .whole n :: rest =>
        if n < Nat.pow 2 64 then accesses fuel room (.index e (.whole n)) rest else none
      | _ => none
    else if s = "[" then do
      let (access, rest) ← subscript fuel room e rest
      accesses fuel room access rest
    else if s = "(" then do
      let (found, rest) ← arguments fuel room [] rest
      accesses fuel room (.call e (found.map Prod.fst) (found.map Prod.snd)) rest
    else some (e, .symbol s :: rest)
  | _ + 1, ts => some (e, ts)

/-- A part of a subscript, which may be left out before a colon or the closing bracket. -/
def subscriptPart (fuel room : Nat) (ts : List Token) : Option (Option Expr × List Token) :=
  match fuel with
  | 0 => none
  | fuel + 1 =>
    if (symbol? ":" ts).isSome ∨ (symbol? "]" ts).isSome then some (none, ts)
    else (expression fuel room ts).map fun (e, rest) => (some e, rest)

/-- A subscript whose bracket has been read: one key, or the bounds and the step of a slice. -/
def subscript (fuel room : Nat) (e : Expr) (ts : List Token) : Option (Expr × List Token) :=
  match fuel with
  | 0 => none
  | fuel + 1 => do
    let (start, rest) ← subscriptPart fuel room ts
    match symbol? ":" rest with
    | none =>
      let rest ← symbol? "]" rest
      start.map fun key => (.index e key, rest)
    | some rest =>
      let (stop, rest) ← subscriptPart fuel room rest
      let (step, rest) ← match symbol? ":" rest with
        | some rest => subscriptPart fuel room rest
        | none => some (none, rest)
      let rest ← symbol? "]" rest
      some (.slice e (start.getD .nothing) (stop.getD .nothing) (step.getD .nothing), rest)

/-- The filters and tests after an operand. -/
def filters (fuel room : Nat) (e : Expr) (ts : List Token) : Option (Expr × List Token) :=
  match fuel, ts with
  | 0, _ => none
  | fuel + 1, .symbol "|" :: .name n :: rest => do
    let (found, rest) ← givenArguments fuel room rest
    filters fuel room (.filter e n (found.map Prod.fst) (found.map Prod.snd)) rest
  | _ + 1, .symbol "|" :: _ => none
  | fuel + 1, .name "is" :: rest => do
    let (negated, rest) := match keyword? "not" rest with
      | some rest => (true, rest)
      | none => (false, rest)
    match rest with
    | .name n :: rest =>
      let (found, rest) ← testArguments fuel room rest
      let tested := Expr.test e n (found.map Prod.fst) (found.map Prod.snd)
      filters fuel room (if negated then .not tested else tested) rest
    | _ => none
  | _ + 1, ts => some (e, ts)

/-- The arguments of a test: in parentheses, or a single operand without them. -/
def testArguments (fuel room : Nat) (ts : List Token) : Option (List Argument × List Token) :=
  match fuel with
  | 0 => none
  | fuel + 1 =>
    if startsArgument ts then do
      let (e, rest) ← signedOperand fuel room ts
      let (e, rest) ← accesses fuel room e rest
      some ([(.plain, e)], rest)
    else givenArguments fuel room ts
end

-- ---------------------------------------------------------------------------
-- Whole expressions
-- ---------------------------------------------------------------------------

/-- How deep expressions and statements may be nested. -/
def maxNesting : Nat := 150

/-- How much fuel reading some words takes: every word is met once at each level. -/
def readingFuel (ts : List Token) : Nat := 20 * ts.length + 20

/-- An expression at the front of some words. -/
def Expr.front? (room : Nat) (ts : List Token) : Option (Expr × List Token) :=
  expression (readingFuel ts) room ts

/-- An expression without inline conditions at the front of some words. -/
def Expr.plainFront? (room : Nat) (ts : List Token) : Option (Expr × List Token) :=
  disjunction (readingFuel ts) room ts

/-- The expression that some words are, all of them. -/
def Expr.read? (room : Nat) (ts : List Token) : Option Expr :=
  match Expr.front? room ts with
  | some (e, []) => some e
  | _ => none

/-- The expression without inline conditions that some words are, all of them. -/
def Expr.readPlain? (room : Nat) (ts : List Token) : Option Expr :=
  match Expr.plainFront? room ts with
  | some (e, []) => some e
  | _ => none

end Errand.Template
