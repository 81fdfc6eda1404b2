/-!
# Errand — arithmetic of the shell

Whole numbers of 64 bits, the usual operators by rank, and variables, which
an expression may also set.

* `Arithmetic.eval` — the value of an expression and the variables that it set.
-/

namespace Errand.Machine.Shell.Arithmetic

/-- What is left to read, and the variables set so far, the latest first. -/
structure Reading where
  rest : List Char
  assigned : List (String × Int) := []

/-- A value and what is left to read; the error is the end of a message. -/
abbrev Result := Except String (Int × Reading)

/-- The number of 64 bits that a number wraps to. -/
def wrap (n : Int) : Int := Int.bmod n (Nat.pow 2 64)

/-- The text after white space. -/
def skip (cs : List Char) : List Char := cs.dropWhile Char.isWhitespace

/-- The value of a digit in any base up to sixteen. -/
def digit (c : Char) : Nat :=
  if c.isDigit then c.toNat - 48
  else if 'a' ≤ c ∧ c ≤ 'f' then c.toNat - 'a'.toNat + 10
  else c.toNat - 'A'.toNat + 10

/-- The value of digits in a base. -/
def number (base : Nat) (cs : List Char) : Int := (cs.foldl (fun n c => n * base + digit c) 0 : Nat)

/-- A number written in base ten, eight or sixteen. -/
def numberOf (cs : List Char) : Int :=
  match cs with
  | '0' :: x :: rest => if x = 'x' ∨ x = 'X' then number 16 rest else number 8 (x :: rest)
  | cs => number 10 cs

/-- The number that a variable's text stands for; text that is no number counts as zero. -/
def valueOf (text : String) : Int :=
  let cs := skip text.toList
  match cs with
  | '-' :: rest => -numberOf (rest.takeWhile Char.isAlphanum)
  | '+' :: rest => numberOf (rest.takeWhile Char.isAlphanum)
  | cs => numberOf (cs.takeWhile Char.isAlphanum)

/-- The operators between two values, by rank from the loosest to the tightest. -/
def ranks : List (List String) :=
  [["||"], ["&&"], ["|"], ["^"], ["&"], ["==", "!="], ["<=", ">=", "<", ">"], ["<<", ">>"],
   ["+", "-"], ["*", "/", "%"]]

/-- All operators of two signs, which are not to be taken for operators of one. -/
def longSigns : List String := ["||", "&&", "==", "!=", "<=", ">=", "<<", ">>"]

/-- The operator of a rank at the front of a text. -/
def operatorAt (rank : List String) (cs : List Char) : Option (String × List Char) :=
  let two := String.ofList (cs.take 2)
  let isAssignment := cs.getD 1 ' ' = '=' ∧ !longSigns.contains two
  if rank.contains two then some (two, cs.drop 2)
  else if longSigns.contains two ∨ isAssignment then none
  else
    let one := String.ofList (cs.take 1)
    if rank.contains one then some (one, cs.drop 1) else none

/-- A truth value as a number. -/
def truth (b : Bool) : Int := if b then 1 else 0

/-- Two's complement of 64 bits as a natural number. -/
def bits (n : Int) : Nat := (n % (Nat.pow 2 64 : Nat)).toNat

/-- The value of an operator. -/
def apply (op : String) (a b : Int) : Except String Int :=
  match op with
  | "||" => .ok (truth (a ≠ 0 ∨ b ≠ 0))
  | "&&" => .ok (truth (a ≠ 0 ∧ b ≠ 0))
  | "|" => .ok (wrap (bits a ||| bits b))
  | "^" => .ok (wrap (bits a ^^^ bits b))
  | "&" => .ok (wrap (bits a &&& bits b))
  | "==" => .ok (truth (a = b))
  | "!=" => .ok (truth (a ≠ b))
  | "<=" => .ok (truth (a ≤ b))
  | ">=" => .ok (truth (b ≤ a))
  | "<" => .ok (truth (a < b))
  | ">" => .ok (truth (b < a))
  | "<<" => .ok (wrap (a * (Nat.pow 2 (bits b % 64) : Nat)))
  | ">>" => .ok (a.shiftRight (bits b % 64))
  | "+" => .ok (wrap (a + b))
  | "-" => .ok (wrap (a - b))
  | "*" => .ok (wrap (a * b))
  | "/" => if b = 0 then .error "division by zero" else .ok (wrap (a.tdiv b))
  | _ => if b = 0 then .error "division by zero" else .ok (wrap (a.tmod b))

/-- The name at the front of a text. -/
def nameAt (cs : List Char) : List Char :=
  match cs with
  | c :: rest =>
    if c.isAlpha ∨ c = '_' then c :: rest.takeWhile fun x => x.isAlphanum || x = '_' else []
  | [] => []

/-- The operators that set a variable. -/
def assignments : List (String × String) :=
  [("<<=", "<<"), (">>=", ">>"), ("+=", "+"), ("-=", "-"), ("*=", "*"), ("/=", "/"),
   ("%=", "%"), ("&=", "&"), ("|=", "|"), ("^=", "^")]

/-- The message for an expression that breaks off. -/
def expecting : String := "expecting primary"

mutual
/-- An expression: a variable that is set, or a choice between two values. -/
def expression (lookup : String → Option String) (fuel : Nat) (r : Reading) : Result :=
  match fuel with
  | 0 => .error expecting
  | fuel + 1 =>
    let cs := skip r.rest
    let name := nameAt cs
    let after := skip (cs.drop name.length)
    let compound := assignments.find? fun a => a.1.toList.isPrefixOf after
    let isPlain := after.head? = some '=' ∧ after.getD 1 ' ' ≠ '='
    if name.isEmpty ∨ (compound.isNone ∧ !isPlain) then choice lookup fuel { r with rest := cs }
    else do
      let key := String.ofList name
      let old := ((r.assigned.find? fun a => a.1 = key).map Prod.snd).getD
        (((lookup key).map valueOf).getD 0)
      let size := match compound with
        | some (sign, _) => sign.length
        | none => 1
      let (value, r) ← expression lookup fuel { r with rest := after.drop size }
      let value ← match compound with
        | some (_, op) => apply op old value
        | none => .ok value
      .ok (value, { r with assigned := (key, value) :: r.assigned })

/-- A choice between two values, or a value. -/
def choice (lookup : String → Option String) (fuel : Nat) (r : Reading) : Result :=
  match fuel with
  | 0 => .error expecting
  | fuel + 1 => do
    let (test, r) ← binary lookup fuel ranks r
    match skip r.rest with
    | '?' :: rest =>
      let (first, r) ← expression lookup fuel { r with rest := rest }
      match skip r.rest with
      | ':' :: rest =>
        let (second, r) ← choice lookup fuel { r with rest := rest }
        .ok (if test ≠ 0 then first else second, r)
      | _ => .error "expecting ':'"
    | rest => .ok (test, { r with rest := rest })

/-- Values with operators of the given ranks between them. -/
def binary (lookup : String → Option String) (fuel : Nat) (levels : List (List String))
    (r : Reading) : Result :=
  match fuel with
  | 0 => .error expecting
  | fuel + 1 =>
    match levels with
    | [] => unary lookup fuel r
    | rank :: tighter => do
      let (first, r) ← binary lookup fuel tighter r
      operands lookup fuel rank tighter first r

/-- The operators of one rank that follow a value. -/
def operands (lookup : String → Option String) (fuel : Nat) (rank : List String)
    (tighter : List (List String)) (first : Int) (r : Reading) : Result :=
  match fuel with
  | 0 => .error expecting
  | fuel + 1 =>
    let cs := skip r.rest
    match operatorAt rank cs with
    | none => .ok (first, { r with rest := cs })
    | some (op, rest) => do
      let (second, r) ← binary lookup fuel tighter { r with rest := rest }
      let value ← apply op first second
      operands lookup fuel rank tighter value r

/-- A value with signs in front of it. -/
def unary (lookup : String → Option String) (fuel : Nat) (r : Reading) : Result :=
  match fuel with
  | 0 => .error expecting
  | fuel + 1 => do
    match skip r.rest with
    | '-' :: rest =>
      let (n, r) ← unary lookup fuel { r with rest := rest }
      .ok (wrap (-n), r)
    | '+' :: rest => unary lookup fuel { r with rest := rest }
    | '!' :: rest =>
      let (n, r) ← unary lookup fuel { r with rest := rest }
      .ok (truth (n = 0), r)
    | '~' :: rest =>
      let (n, r) ← unary lookup fuel { r with rest := rest }
      .ok (-n - 1, r)
    | '(' :: rest =>
      let (n, r) ← expression lookup fuel { r with rest := rest }
      match skip r.rest with
      | ')' :: rest => .ok (n, { r with rest := rest })
      | _ => .error "expecting ')'"
    | cs =>
      let name := nameAt cs
      if !name.isEmpty then
        let key := String.ofList name
        let value := ((r.assigned.find? fun a => a.1 = key).map Prod.snd).getD
          (((lookup key).map valueOf).getD 0)
        .ok (value, { r with rest := cs.drop name.length })
      else
        let digits := cs.takeWhile Char.isAlphanum
        if digits.isEmpty then .error expecting
        else .ok (wrap (numberOf digits), { r with rest := cs.drop digits.length })
end

/-- The value of an expression and the variables that it set; an empty one is zero. -/
def eval (lookup : String → Option String) (text : List Char) :
    Except String (Int × List (String × Int)) :=
  if (skip text).isEmpty then .ok (0, [])
  else do
    let (n, r) ← expression lookup (30 * text.length + 30) ⟨text, []⟩
    if (skip r.rest).isEmpty then .ok (n, r.assigned.reverse) else .error "expecting EOF"

end Errand.Machine.Shell.Arithmetic
