import Errand.Template.ExprReader
import Errand.Template.Piece

/-!
# Errand — reading statements of a template

Statements stand alone or enclose a body, which ends at the statement of the
closing word. Some names cannot be assigned to, a block has a name of its own,
and blocks do not stand inside routines.

* `target?`        — what a value is assigned to.
* `block`          — the nodes up to a statement that opens none.
* `Template.read?` — the nodes of a template, if it is well formed.
-/

namespace Errand.Template

-- ---------------------------------------------------------------------------
-- What is assigned to
-- ---------------------------------------------------------------------------

/-- The names that cannot be assigned to. -/
def reservedNames : List String :=
  ["true", "True", "false", "False", "none", "None", "loop", "self"]

/-- A name that can be assigned to. -/
def freeName? : List Token → Option (String × List Token)
  | .name n :: rest => if reservedNames.contains n then none else some (n, rest)
  | _ => none

/-- The members that a target goes on with. -/
def memberTarget (fuel : Nat) (of : Expr) (target : Target) (ts : List Token) :
    Option (Target × List Token) :=
  match fuel, ts with
  | fuel + 1, .symbol "." :: .name n :: rest =>
    memberTarget fuel (.dot of n) (.member of n) rest
  | _, .symbol "." :: _ => none
  | _, ts => some (target, ts)

/-- A name, or a member of the value of a name. -/
def dottedTarget? (ts : List Token) : Option (Target × List Token) := do
  let (n, rest) ← freeName? ts
  memberTarget ts.length (.var n) (.name n) rest

/-- The words end the targets of an assignment. -/
def endsTargets : List Token → Bool
  | [] => true
  | .symbol s :: _ => s = ")"
  | .name n :: _ => n = "in"
  | _ => false

mutual
/-- A name, or targets in parentheses. -/
def singleTarget (fuel : Nat) (ts : List Token) : Option (Target × List Token) :=
  match fuel with
  | 0 => none
  | fuel + 1 =>
    match symbol? "(" ts with
    | some rest => do
      let (target, rest) ← targets fuel [] rest
      let rest ← symbol? ")" rest
      some (target, rest)
    | none => (freeName? ts).map fun (n, rest) => (.name n, rest)

/-- Targets with commas between them; one without a comma stands for itself. -/
def targets (fuel : Nat) (read : List Target) (ts : List Token) :
    Option (Target × List Token) :=
  match fuel with
  | 0 => none
  | fuel + 1 =>
    if endsTargets ts then some (.parts read.reverse, ts)
    else do
      let (target, rest) ← singleTarget fuel ts
      match symbol? "," rest, read with
      | some rest, read => targets fuel (target :: read) rest
      | none, [] => some (target, rest)
      | none, read => some (.parts (target :: read).reverse, rest)
end

/-- Targets with commas between them at the front of some words. -/
def target? (ts : List Token) : Option (Target × List Token) :=
  targets (2 * ts.length + 2) [] ts

-- ---------------------------------------------------------------------------
-- Headers
-- ---------------------------------------------------------------------------

/-- Filters with bars between them, up to the end of the words. -/
def filterChain (fuel room : Nat) (read : List FilterCall) (ts : List Token) :
    Option (List FilterCall) :=
  match fuel, ts with
  | fuel + 1, .name n :: rest => do
    let (found, rest) ← givenArguments (readingFuel rest) room rest
    let read := ⟨n, found.map Prod.fst, found.map Prod.snd⟩ :: read
    match rest with
    | [] => some read.reverse
    | .symbol "|" :: rest => filterChain fuel room read rest
    | _ => none
  | _, _ => none

/-- The expressions of a list without brackets, after the first one. -/
def bareItems (fuel room : Nat) (read : List Expr) (ts : List Token) : Option Expr :=
  match fuel, ts with
  | _, [] => some (.list read.reverse)
  | 0, _ => none
  | fuel + 1, ts => do
    let (e, rest) ← Expr.front? room ts
    match rest with
    | [] => some (.list (e :: read).reverse)
    | .symbol "," :: rest => bareItems fuel room (e :: read) rest
    | _ => none

/-- The value of an assignment: an expression, or several with commas between them. -/
def assigned? (room : Nat) (ts : List Token) : Option Expr := do
  let (e, rest) ← Expr.front? room ts
  match rest with
  | [] => some e
  | .symbol "," :: rest => bareItems rest.length room [e] rest
  | _ => none

/-- The header of an assignment: what it assigns to, and a value or the filters of a body. -/
def setHeader (room : Nat) (ts : List Token) : Option (Target × (Expr ⊕ List FilterCall)) := do
  let whole (target : Target) (rest : List Token) := do
    let rest ← symbol? "=" rest
    let e ← assigned? room rest
    some (target, Sum.inl e)
  match symbol? "(" ts with
  | some _ =>
    let (target, rest) ← target? ts
    whole target rest
  | none =>
    let (first, rest) ← dottedTarget? ts
    match rest with
    | [] => some (first, .inr [])
    | .symbol "|" :: rest =>
      let filters ← filterChain (rest.length + 1) room [] rest
      some (first, .inr filters)
    | .symbol "," :: rest =>
      let (target, rest) ← targets (2 * rest.length + 2) [first] rest
      whole target rest
    | rest => whole first rest

/-- The bindings of a scope statement, with commas between them. -/
def bindings (fuel room : Nat) (read : List (Target × Expr)) (ts : List Token) :
    Option (List (Target × Expr)) :=
  match fuel with
  | 0 => none
  | fuel + 1 => do
    let (target, rest) ← singleTarget (2 * ts.length + 2) ts
    let rest ← symbol? "=" rest
    let (e, rest) ← Expr.front? room rest
    let read := (target, e) :: read
    match rest with
    | [] => some read.reverse
    | .symbol "," :: rest => bindings fuel room read rest
    | _ => none

/-- The header of a loop: its target, its items, the condition to keep one, and whether the loop
may call itself. -/
def loopHeader (room : Nat) (ts : List Token) : Option (Target × Expr × Option Expr × Bool) := do
  let (target, rest) ← target? ts
  let rest ← keyword? "in" rest
  let (items, rest) ← Expr.plainFront? room rest
  let (keep, rest) ← match keyword? "if" rest with
    | some rest => (Expr.front? room rest).map fun (e, rest) => (some e, rest)
    | none => some (none, rest)
  match rest with
  | [] => some (target, items, keep, false)
  | [.name "recursive"] => some (target, items, keep, true)
  | _ => none

/-- The parameters of a routine whose parenthesis has been read. -/
def parameters (fuel room : Nat) (read : List Parameter) (ts : List Token) :
    Option (List Parameter × List Token) :=
  match fuel with
  | 0 => none
  | fuel + 1 =>
    match symbol? ")" ts with
    | some rest => some (read.reverse, rest)
    | none => do
      let (n, rest) ← freeName? ts
      let (default, rest) ← match symbol? "=" rest with
        | some rest => (Expr.front? room rest).map fun (e, rest) => (some e, rest)
        | none => if read.any fun p => p.default.isSome then none else some (none, rest)
      let read := ⟨n, default⟩ :: read
      match symbol? "," rest with
      | some rest => parameters fuel room read rest
      | none =>
        let rest ← symbol? ")" rest
        some (read.reverse, rest)

/-- The header of a routine: its name and its parameters. -/
def routineHeader (room : Nat) : List Token → Option (String × List Parameter)
  | .name n :: .symbol "(" :: rest =>
    match parameters (rest.length + 1) room [] rest with
    | some (found, []) => some (n, found)
    | _ => none
  | _ => none

/-- An expression that is a call. -/
def callOf? : Expr → Option Expr
  | .call callee roles args => some (.call callee roles args)
  | _ => none

/-- The header of a call with a body: the parameters of the body, and the call. -/
def callHeader (room : Nat) (ts : List Token) : Option (List Parameter × Expr) := do
  let (found, rest) ← match symbol? "(" ts with
    | some rest => parameters (rest.length + 1) room [] rest
    | none => some ([], ts)
  let e ← Expr.read? room rest
  (callOf? e).map fun call => (found, call)

/-- The words say whether another template sees the names of this one, which changes nothing. -/
def skipContext (ts : List Token) : Option (List Token) :=
  match ts with
  | .name n :: rest =>
    if n = "with" ∨ n = "without" then keyword? "context" rest else some ts
  | ts => some ts

/-- The header of an inclusion: the template's name, and whether it may be missing. -/
def inclusionHeader (room : Nat) (ts : List Token) : Option (Expr × Bool) := do
  let (name, rest) ← Expr.front? room ts
  let rest ← skipContext rest
  match rest with
  | [] => some (name, false)
  | .name "ignore" :: .name "missing" :: rest =>
    let rest ← skipContext rest
    if rest.isEmpty then some (name, true) else none
  | _ => none

/-- The header of an import under one name is well formed. -/
def importHeader (room : Nat) (ts : List Token) : Option Unit := do
  let (_, rest) ← Expr.front? room ts
  let rest ← keyword? "as" rest
  let (_, rest) ← Expr.front? room rest
  let rest ← skipContext rest
  if rest.isEmpty then some () else none

/-- The names of an import are well formed. -/
def importedNames (fuel : Nat) (ts : List Token) : Option Unit :=
  match fuel with
  | 0 => none
  | fuel + 1 =>
    if ts.isEmpty then some ()
    else do
      let (_, rest) ← freeName? ts
      let rest ← match keyword? "as" rest with
        | some rest => (freeName? rest).map Prod.snd
        | none => some rest
      let rest ← skipContext rest
      match rest with
      | [] => some ()
      | .symbol "," :: rest => importedNames fuel rest
      | _ => none

/-- The header of an import of several names is well formed. -/
def importListHeader (room : Nat) (ts : List Token) : Option Unit := do
  let (_, rest) ← Expr.front? room ts
  let rest ← keyword? "import" rest
  importedNames (rest.length + 1) rest

-- ---------------------------------------------------------------------------
-- Statements
-- ---------------------------------------------------------------------------

/-- The nodes up to a statement that ends them, that statement's words, and the rest. -/
abbrev Block := List Node × List Token × List Piece

/-- Some words are one of these keywords alone. -/
def isLone (words : List String) (ts : List Token) : Bool :=
  match ts with
  | [.name n] => words.contains n
  | _ => false

/-- The words that a statement with a node of its own starts with. -/
def openingWords : List String :=
  ["for", "if", "with", "set", "autoescape", "filter", "block", "extends", "include", "import",
   "from", "macro", "call", "do"]

mutual
/-- The nodes at the front of some pieces, up to a statement that opens none. -/
def block (fuel room : Nat) (inRoutine : Bool) (read : List Node) (ps : List Piece) :
    Option Block :=
  match fuel, ps with
  | 0, _ => none
  | _ + 1, [] => some (read.reverse, [], [])
  | fuel + 1, .text s :: rest => block fuel room inRoutine (.text s :: read) rest
  | fuel + 1, .output ts :: rest => do
    let e ← Expr.read? room ts
    block fuel room inRoutine (.output e :: read) rest
  | fuel + 1, .statement (.name word :: ts) :: rest =>
    if openingWords.contains word then
      match room with
      | 0 => none
      | inner + 1 => do
        let (node, rest) ← statement fuel inner inRoutine word ts rest
        block fuel room inRoutine (node :: read) rest
    else some (read.reverse, .name word :: ts, rest)
  | _ + 1, .statement _ :: _ => none

/-- The nodes of a body that ends at a statement of one word. -/
def body (fuel room : Nat) (inRoutine : Bool) (close : String) (ps : List Piece) :
    Option (List Node × List Piece) :=
  match fuel with
  | 0 => none
  | fuel + 1 => do
    let (nodes, stop, rest) ← block fuel room inRoutine [] ps
    if isLone [close] stop then some (nodes, rest) else none

/-- The node of a statement whose first word and header are given. -/
def statement (fuel room : Nat) (inRoutine : Bool) (word : String) (ts : List Token)
    (ps : List Piece) : Option (Node × List Piece) :=
  match fuel with
  | 0 => none
  | fuel + 1 =>
    match word with
    | "if" => do
      let condition ← Expr.readPlain? room ts
      branches fuel room inRoutine condition ps
    | "for" => do
      let (target, items, keep, recursive) ← loopHeader room ts
      let (nodes, stop, rest) ← block fuel room inRoutine [] ps
      if isLone ["endfor"] stop then some (.loop target items keep recursive nodes [], rest)
      else if isLone ["else"] stop then
        let (otherwise, rest) ← body fuel room inRoutine "endfor" rest
        some (.loop target items keep recursive nodes otherwise, rest)
      else none
    | "with" => do
      let bound ← if ts.isEmpty then some [] else bindings (ts.length + 1) room [] ts
      let (nodes, rest) ← body fuel room inRoutine "endwith" ps
      some (.scope bound nodes, rest)
    | "set" => do
      let (target, given) ← setHeader room ts
      match given with
      | .inl e => some (.assign target e, ps)
      | .inr filters =>
        let (nodes, rest) ← body fuel room inRoutine "endset" ps
        some (.capture target filters nodes, rest)
    | "autoescape" => do
      let mode ← Expr.read? room ts
      let (nodes, rest) ← body fuel room inRoutine "endautoescape" ps
      some (.escaping mode nodes, rest)
    | "filter" => do
      let filters ← filterChain (ts.length + 1) room [] ts
      let (nodes, rest) ← body fuel room inRoutine "endfilter" ps
      some (.filtered filters nodes, rest)
    | "block" =>
      match ts with
      | [.name n] => do
        if inRoutine then none
        let (nodes, stop, rest) ← block fuel room inRoutine [] ps
        if isLone ["endblock"] stop ∨ stop = [.name "endblock", .name n] then
          some (.block n nodes, rest)
        else none
      | _ => none
    | "extends" => (Expr.read? room ts).map fun _ => (.elsewhere, ps)
    | "include" => (inclusionHeader room ts).map fun (e, mayMiss) => (.inclusion e mayMiss, ps)
    | "import" => (importHeader room ts).map fun _ => (.elsewhere, ps)
    | "from" => (importListHeader room ts).map fun _ => (.elsewhere, ps)
    | "macro" => do
      let (n, found) ← routineHeader room ts
      let (nodes, rest) ← body fuel room true "endmacro" ps
      some (.routine n found nodes, rest)
    | "call" => do
      let (found, call) ← callHeader room ts
      let (nodes, rest) ← body fuel room true "endcall" ps
      some (.callWith call found nodes, rest)
    | "do" => do
      let e ← Expr.read? room ts
      (callOf? e).map fun call => (.perform call, ps)
    | _ => none

/-- The rest of a condition: its body, and what follows an `elif` or `else`. -/
def branches (fuel room : Nat) (inRoutine : Bool) (condition : Expr) (ps : List Piece) :
    Option (Node × List Piece) :=
  match fuel with
  | 0 => none
  | fuel + 1 => do
    let (yes, stop, rest) ← block fuel room inRoutine [] ps
    match stop with
    | .name "elif" :: ts =>
      let next ← Expr.readPlain? room ts
      let (no, rest) ← branches fuel room inRoutine next rest
      some (.branch condition yes [no], rest)
    | stop =>
      if isLone ["endif"] stop then some (.branch condition yes [], rest)
      else if isLone ["else"] stop then
        let (no, rest) ← body fuel room inRoutine "endif" rest
        some (.branch condition yes no, rest)
      else none
end

-- ---------------------------------------------------------------------------
-- Templates
-- ---------------------------------------------------------------------------

mutual
/-- The blocks of a node, those inside others among them, with their names. -/
def Node.blocks : Node → List (String × List Node)
  | .block n nodes => (n, nodes) :: blocksOf nodes
  | .capture _ _ nodes | .scope _ nodes | .escaping _ nodes | .filtered _ nodes =>
    blocksOf nodes
  | .branch _ yes no => blocksOf yes ++ blocksOf no
  | .loop _ _ _ _ nodes otherwise => blocksOf nodes ++ blocksOf otherwise
  | _ => []

/-- The blocks of some nodes. -/
def blocksOf : List Node → List (String × List Node)
  | [] => []
  | n :: rest => n.blocks ++ blocksOf rest
end

/-- The nodes of a template, if it is well formed. -/
def read? (source : String) : Option (List Node) := do
  let ps ← Piece.ofText? source
  match block (3 * ps.length + 3) maxNesting false [] ps with
  | some (nodes, [], _) => if ((blocksOf nodes).map Prod.fst).Nodup then some nodes else none
  | _ => none

end Errand.Template
