import Errand.Machine.Tool.Basic

/-!
# Errand — conditions

The program that tests files, texts and numbers and tells the outcome by its
exit code: zero if the condition holds, one if it does not, two if it cannot
be read.

* `Condition.holds` — whether the condition that some words state holds.
* `Condition.test`, `Condition.bracket` — the two names of the program.
-/

namespace Errand.Machine.Condition

-- ---------------------------------------------------------------------------
-- Operators
-- ---------------------------------------------------------------------------

/-- What a word of a condition may be. -/
inductive Sign where
  | unary
  | binary
  | negation
  | conjunction
  | disjunction
  | opening
  | closing
  deriving DecidableEq, Inhabited

/-- The sign that a word is, if it is one. -/
def sign? (w : String) : Option Sign :=
  if ["-r", "-w", "-x", "-f", "-d", "-c", "-b", "-p", "-u", "-g", "-k", "-s", "-t", "-z", "-n",
      "-h", "-L", "-O", "-G", "-S", "-e"].contains w then some .unary
  else if ["=", "!=", "<", ">", "-eq", "-ne", "-ge", "-gt", "-le", "-lt", "-nt", "-ot",
      "-ef"].contains w then some .binary
  else match w with
    | "!" => some .negation
    | "-a" => some .conjunction
    | "-o" => some .disjunction
    | "(" => some .opening
    | ")" => some .closing
    | _ => none

/-- The sign at the head of some words; a sign in the place of an operand is none. -/
def signAt (ws : List String) : Option Sign :=
  match ws with
  | [] => none
  | [w] => match sign? w with
    | some .unary | some .opening => none
    | s => s
  | w :: next :: rest => match sign? w with
    | some .unary => if !rest.isEmpty && sign? next = some .binary then none else some .unary
    | s => s

/-- The number that a word means. -/
def number (w : String) : Except String Int :=
  let cs := w.trimAscii.toString
  let unsigned := if cs.startsWith "+" then (cs.drop 1).toString else cs
  match unsigned.toInt? with
  | some n => if cs.startsWith "+-" then .error ("Illegal number: " ++ w) else .ok n
  | none => .error ("Illegal number: " ++ w)

/-- A test with two operands. -/
def compare (a op b : String) : Except String Bool := do
  match op with
  | "=" => return a == b
  | "!=" => return a != b
  | "<" => return decide (a < b)
  | ">" => return decide (b < a)
  | "-nt" | "-ot" => return false
  | "-ef" => return a == b
  | _ =>
    let m ← number a
    let n ← number b
    return match op with
      | "-eq" => m = n
      | "-ne" => m ≠ n
      | "-ge" => n ≤ m
      | "-gt" => n < m
      | "-le" => m ≤ n
      | _ => m < n

/-- A test of a file or a text. -/
def check (files : Files) (p : Process) (op operand : String) : Except String Bool :=
  let path := p.path operand
  let entry := if operand.isEmpty then none else files.find? path
  let isDevice := path.head? = some "dev" && path.length = 2
  match op with
  | "-z" => .ok operand.isEmpty
  | "-n" => .ok !operand.isEmpty
  | "-t" => (number operand).map fun _ => false
  | "-e" | "-r" | "-w" => .ok (entry.isSome || isDevice)
  | "-c" => .ok isDevice
  | "-d" => .ok (entry = some .directory)
  | "-f" => .ok (match entry with | some (.file _ _) => true | _ => false)
  | "-s" => .ok (match entry with
    | some (.file content _) => !content.isEmpty
    | some .directory => true
    | none => false)
  | "-x" => .ok (match entry with
    | some (.file _ executable) => executable
    | some .directory => true
    | none => false)
  | "-O" | "-G" => .ok entry.isSome
  | _ => .ok false

-- ---------------------------------------------------------------------------
-- Conditions
-- ---------------------------------------------------------------------------

/-- A part of a condition: whether it holds, and the words after it. -/
abbrev Reading := Except String (Bool × List String)

mutual
/-- Parts of which one has to hold. -/
def disjunction (files : Files) (p : Process) (fuel : Nat) (ws : List String) : Reading := do
  match fuel with
  | 0 => throw "argument expected"
  | fuel + 1 =>
    let (a, rest) ← conjunction files p fuel ws
    match rest with
    | "-o" :: rest =>
      let (b, rest) ← disjunction files p fuel rest
      return (a || b, rest)
    | rest => return (a, rest)

/-- Parts of which all have to hold. -/
def conjunction (files : Files) (p : Process) (fuel : Nat) (ws : List String) : Reading := do
  match fuel with
  | 0 => throw "argument expected"
  | fuel + 1 =>
    let (a, rest) ← primary files p fuel ws
    match rest with
    | "-a" :: rest =>
      let (b, rest) ← conjunction files p fuel rest
      return (a && b, rest)
    | rest => return (a, rest)

/-- A single test. -/
def primary (files : Files) (p : Process) (fuel : Nat) (ws : List String) : Reading := do
  match fuel with
  | 0 => throw "argument expected"
  | fuel + 1 =>
    match ws with
    | [] => return (false, [])
    | w :: rest =>
      match signAt ws with
      | some .negation =>
        let (a, rest) ← primary files p fuel rest
        return (!a, rest)
      | some .opening =>
        match rest with
        | ")" :: rest => return (false, rest)
        | rest =>
          let (a, rest) ← disjunction files p fuel rest
          match rest with
          | ")" :: rest => return (a, rest)
          | _ => throw "closing paren expected"
      | some .unary =>
        match rest with
        | [] => throw (w ++ ": argument expected")
        | operand :: rest => return (← check files p w operand, rest)
      | _ =>
        match rest with
        | op :: operands =>
          if sign? op = some .binary then
            match operands with
            | [] => throw (op ++ ": argument expected")
            | b :: rest => return (← compare w op b, rest)
          else return (!w.isEmpty, rest)
        | [] => return (!w.isEmpty, [])
end

/-- The condition that words state; few words are read by their number alone. -/
def stated (files : Files) (p : Process) (fuel : Nat) (ws : List String) : Except String Bool := do
  match fuel with
  | 0 => throw "argument expected"
  | fuel + 1 =>
    let whole : Except String Bool := do
      let (holds, rest) ← disjunction files p (4 * ws.length + 4) ws
      if rest.isEmpty then return holds
      else
        let read := ws.take (ws.length - rest.length)
        throw (read.getLastD "" ++ ": unexpected operator")
    match ws with
    | [] => return false
    | [a, op, b] =>
      if sign? op = some .binary then compare a op b
      else if a = "(" ∧ b = ")" then stated files p fuel [op]
      else if a = "!" then return !(← stated files p fuel [op, b])
      else whole
    | [a, b, c, d] =>
      if a = "(" ∧ d = ")" then stated files p fuel [b, c]
      else if a = "!" then return !(← stated files p fuel [b, c, d])
      else whole
    | _ => whole

/-- Whether the condition that some words state holds. -/
def holds (p : Process) (ws : List String) : M (Except String Bool) := do
  let files := (← get).files
  return stated files p 8 ws

/-- The words of a condition in brackets. -/
def inBrackets (ws : List String) : Except String (List String) :=
  if ws.getLast? = some "]" then .ok ws.dropLast else .error "missing ]"

/-- The end of a program that found a condition to hold or not. -/
def endOf (name : String) (p : Process) : Except String Bool → M ExitStatus
  | .ok holds => return Tool.endWith holds
  | .error reason => do
    Tool.report p name reason
    return .exited 2

/-- The program by its name of letters. -/
def test : Tool := fun p ws => do endOf "test" p (← holds p ws)

/-- The program by its name of a bracket. -/
def bracket : Tool := fun p ws => do
  match inBrackets ws with
  | .error reason => endOf "[" p (.error reason)
  | .ok ws => endOf "[" p (← holds p ws)

end Errand.Machine.Condition
