import Errand.Machine.Tool.Basic
import Errand.Number.Decimal

/-!
# Errand — printing words

The two programs that print their arguments: one with spaces between them,
the other by a format. Both exist inside the shell too, with small
differences.

* `Print.echoed`    — words with spaces between them.
* `Print.formatted` — words by a format, which is used again until none is left.
-/

namespace Errand.Machine.Print

-- ---------------------------------------------------------------------------
-- Escapes
-- ---------------------------------------------------------------------------

/-- The characters that are escaped by a letter. -/
def letterEscape? (c : Char) : Option Char :=
  match c with
  | 'a' => some (Char.ofNat 7)
  | 'b' => some (Char.ofNat 8)
  | 'e' => some (Char.ofNat 27)
  | 'f' => some (Char.ofNat 12)
  | 'n' => some '\n'
  | 'r' => some '\r'
  | 't' => some '\t'
  | 'v' => some (Char.ofNat 11)
  | '\\' => some '\\'
  | _ => none

/-- A digit of base eight. -/
def isOctal (c : Char) : Bool := '0' ≤ c && c ≤ '7'

/-- The byte that some digits of base eight stand for. -/
def octalByte (digits : List Char) : Char :=
  Char.ofNat (digits.foldl (fun n c => n * 8 + (c.toNat - 48)) 0 % 256)

/-- The value of a digit of base sixteen. -/
def hexValue? (c : Char) : Option Nat := Git.hexDigit? c.toLower

/-- Text with its escapes replaced; the second part tells that printing ends here. -/
def unescaped (fuel : Nat) (read : List Char) (cs : List Char) : List Char × Bool :=
  match fuel, cs with
  | 0, _ | _, [] => (read.reverse, false)
  | fuel + 1, '\\' :: c :: rest =>
    if c = 'c' then (read.reverse, true)
    else if c = '0' then
      let digits := (rest.take 3).takeWhile isOctal
      unescaped fuel (octalByte digits :: read) (rest.drop digits.length)
    else
      match letterEscape? c with
      | some d => unescaped fuel (d :: read) rest
      | none => unescaped fuel (c :: '\\' :: read) rest
  | fuel + 1, c :: rest => unescaped fuel (c :: read) rest

/-- Text with its escapes replaced. -/
def withEscapes (cs : List Char) : List Char × Bool := unescaped (cs.length + 1) [] cs

-- ---------------------------------------------------------------------------
-- Words with spaces between them
-- ---------------------------------------------------------------------------

/-- The text that the shell prints for some words: escapes are always replaced. -/
def echoed (args : List String) : String :=
  let (noBreak, words) := match args with
    | "-n" :: rest => (true, rest)
    | args => (false, args)
  let (text, stops) := withEscapes (String.intercalate " " words).toList
  String.ofList text ++ (if noBreak || stops then "" else "\n")

/-- An argument made of options only. -/
def isEchoOption (arg : String) : Bool :=
  match arg.toList with
  | '-' :: c :: rest => (c :: rest).all fun x => x = 'n' || x = 'e' || x = 'E'
  | _ => false

/-- The text that the separate program prints: escapes are replaced only on demand. -/
def echoedPlainly (args : List String) : String :=
  let options := args.takeWhile isEchoOption
  let letters := (String.join options).toList
  let words := (String.intercalate " " (args.drop options.length)).toList
  let escapes := (letters.reverse.find? fun c => c = 'e' || c = 'E') = some 'e'
  let (text, stops) := if escapes then withEscapes words else (words, false)
  String.ofList text ++ (if letters.contains 'n' || stops then "" else "\n")

-- ---------------------------------------------------------------------------
-- Words by a format
-- ---------------------------------------------------------------------------

/-- What was printed so far, the latest first, and what is still to be printed. -/
structure Printing where
  text : List Char := []
  args : List String
  /-- An argument was used. -/
  used : Bool := false
  /-- Printing was ended by an escape or a fault of the format. -/
  stopped : Bool := false
  /-- The format has a fault. -/
  malformed : Bool := false
  faults : List String := []
  deriving Inhabited

/-- Adds text. -/
def Printing.add (p : Printing) (cs : List Char) : Printing :=
  { p with text := cs.reverse ++ p.text }

/-- Ends printing at a fault of the format. -/
def Printing.breakOff (p : Printing) (fault : String) : Printing :=
  { p with stopped := true, malformed := true, faults := p.faults ++ [fault] }

/-- Takes the next argument. -/
def Printing.next (p : Printing) : Option String × Printing :=
  match p.args with
  | [] => (none, { p with used := true })
  | arg :: rest => (some arg, { p with args := rest, used := true })

/-- Fills a text up to a width. -/
def padded (width : Nat) (left zeros : Bool) (cs : List Char) : List Char :=
  let gap := width - cs.length
  if left then cs ++ List.replicate gap ' '
  else if zeros then
    match cs with
    | '-' :: rest => '-' :: (List.replicate gap '0' ++ rest)
    | cs => List.replicate gap '0' ++ cs
  else List.replicate gap ' ' ++ cs

/-- The number that an argument stands for, and whether all of it was understood. -/
def numberOf (arg : String) : Int × Bool :=
  match (arg.toList.dropWhile Char.isWhitespace) with
  | '"' :: c :: _ => ((c.toNat : Int), true)
  | '\x27' :: c :: _ => ((c.toNat : Int), true)
  | cs =>
    let (negative, cs) := match cs with
      | '-' :: rest => (true, rest)
      | '+' :: rest => (false, rest)
      | cs => (false, cs)
    let (base, cs) := match cs with
      | '0' :: 'x' :: rest => (16, rest)
      | '0' :: 'X' :: rest => (16, rest)
      | '0' :: rest => (8, '0' :: rest)
      | cs => (10, cs)
    let digits := cs.takeWhile fun c => (hexValue? c).any (· < base)
    let n : Int := (digits.foldl (fun n c => n * base + (hexValue? c).getD 0) 0 : Nat)
    (if negative then -n else n, !digits.isEmpty && digits.length = cs.length)

/-- The fraction that an argument stands for, and whether all of it was understood. -/
def fractionOf (arg : String) : Number.Double × Bool :=
  let cs := arg.toList.dropWhile Char.isWhitespace
  let (negative, cs) := match cs with
    | '-' :: rest => (true, rest)
    | '+' :: rest => (false, rest)
    | cs => (false, cs)
  let whole := cs.takeWhile Char.isDigit
  let after := cs.drop whole.length
  let fraction := match after with
    | '.' :: rest => rest.takeWhile Char.isDigit
    | _ => []
  let after := match after with
    | '.' :: rest => if whole.isEmpty && fraction.isEmpty then after else rest.drop fraction.length
    | after => after
  let digits := whole ++ fraction
  let exponentOf (rest : List Char) : Option (Int × List Char) :=
    let (below, rest) := match rest with
      | '-' :: rest => (true, rest)
      | '+' :: rest => (false, rest)
      | rest => (false, rest)
    let digits := rest.takeWhile Char.isDigit
    let n : Int := (digits.foldl (fun n c => n * 10 + (c.toNat - 48)) 0 : Nat)
    if digits.isEmpty then none else some (if below then -n else n, rest.drop digits.length)
  let (exponent, after) := match after with
    | 'e' :: rest => (exponentOf rest).getD (0, after)
    | 'E' :: rest => (exponentOf rest).getD (0, after)
    | after => (0, after)
  let power := max (-5000) (min 5000 exponent) - (fraction.length : Int)
  let n := digits.foldl (fun n c => n * 10 + (c.toNat - 48)) 0
  let (up, down) := Number.Decimal.tenPower power
  (Number.Double.ofRatio negative (n * up) down, !digits.isEmpty && after.isEmpty)

/-- The text of a fraction by a conversion. -/
def fractionText (conversion : Char) (precision : Option Nat) (d : Number.Double) : List Char :=
  let places := precision.getD 6
  let text := match conversion.toLower with
    | 'f' => d.fixedPlaces places
    | 'e' => d.scientificPlaces places
    | _ => d.significantDigits places
  if conversion.isUpper then text.toList.map Char.toUpper else text.toList

/-- The digits of a number in a base. -/
def digitsOf (base : Nat) (upper : Bool) (n : Nat) : List Char :=
  let digits := Nat.toDigits base n
  if upper then digits.map Char.toUpper else digits

/-- The text of a number by a conversion. -/
def numberText (conversion : Char) (n : Int) : List Char :=
  let unsigned := (n % (Nat.pow 2 64 : Nat)).toNat
  match conversion with
  | 'o' => digitsOf 8 false unsigned
  | 'x' => digitsOf 16 false unsigned
  | 'X' => digitsOf 16 true unsigned
  | 'u' => digitsOf 10 false unsigned
  | _ => (toString n).toList

/-- How a value is laid out. -/
structure Layout where
  left : Bool := false
  zeros : Bool := false
  plus : Bool := false
  space : Bool := false
  width : Nat := 0
  precision : Option Nat := none
  deriving Inhabited

/-- The flags at the front of a directive. -/
def flags (l : Layout) : List Char → Layout × List Char
  | '-' :: rest => flags { l with left := true } rest
  | '0' :: rest => flags { l with zeros := true } rest
  | '+' :: rest => flags { l with plus := true } rest
  | ' ' :: rest => flags { l with space := true } rest
  | '#' :: rest => flags l rest
  | rest => (l, rest)

/-- A width: digits, or the next argument. -/
def width (p : Printing) : List Char → Int × List Char × Printing
  | '*' :: rest =>
    let (arg, p) := p.next
    (((arg.map fun a => (numberOf a).1).getD 0), rest, p)
  | cs =>
    let digits := cs.takeWhile Char.isDigit
    ((digits.foldl (fun n c => n * 10 + (c.toNat - 48)) 0 : Nat), cs.drop digits.length, p)

/-- The complaint on an argument that is no number. -/
def numberFault (builtin : Bool) (arg : String) (some? : Bool) : String :=
  if builtin then
    arg ++ (if some? then ": not completely converted" else ": expected numeric value")
  else
    "'" ++ arg ++ (if some? then "': value not completely converted"
      else "': expected a numeric value")

/-- Prints one value by a conversion. -/
def convert (builtin : Bool) (l : Layout) (conversion : Char) (p : Printing) : Printing :=
  let (arg, p) := p.next
  let given := arg.getD ""
  let cut (cs : List Char) : List Char := l.precision.elim cs cs.take
  match conversion with
  | 's' => p.add (padded l.width l.left false (cut given.toList))
  | 'c' => p.add (padded l.width l.left false (given.toList.take 1))
  | 'b' =>
    let (text, stops) := withEscapes given.toList
    { p.add (padded l.width l.left false (cut text)) with stopped := stops }
  | conversion =>
    let signed (isNegative : Bool) (text : List Char) : List Char :=
      if isNegative then text
      else if l.plus then '+' :: text
      else if l.space then ' ' :: text
      else text
    if "fegFEG".toList.contains conversion then
      let (d, isNumber) := if given.isEmpty then (⟨0⟩, true) else fractionOf given
      let text := signed d.isNegative (fractionText conversion l.precision d)
      let p := p.add (padded l.width l.left l.zeros text)
      if isNumber then p
      else { p with faults := p.faults ++ [numberFault builtin given (!d.isZero)] }
    else
    let (n, isNumber) := match arg with
      | none => (0, true)
      | some arg => if arg.isEmpty then (0, !builtin || true) else numberOf arg
    let text := numberText conversion n
    let text := match l.precision with
      | some places =>
        if n < 0 ∧ (conversion = 'd' ∨ conversion = 'i') then
          '-' :: padded places false true (text.drop 1)
        else padded places false true text
      | none => text
    let text :=
      if conversion = 'd' ∨ conversion = 'i' then signed (n < 0) text else text
    let p := p.add (padded l.width l.left (l.zeros && l.precision.isNone) text)
    if isNumber then p
    else { p with faults := p.faults ++ [numberFault builtin given (n ≠ 0)] }

/-- Prints the format once. -/
def once (builtin : Bool) (fuel : Nat) (p : Printing) (cs : List Char) : Printing :=
  match fuel, cs with
  | 0, _ | _, [] => p
  | fuel + 1, '%' :: '%' :: rest => once builtin fuel (p.add ['%']) rest
  | fuel + 1, '%' :: rest =>
    let (l, rest) := flags {} rest
    let (w, rest, p) := width p rest
    let l := { l with width := w.natAbs, left := l.left || w < 0 }
    let (l, rest, p) := match rest with
      | '.' :: rest =>
        let (n, rest, p) := width p rest
        ({ l with precision := some n.toNat }, rest, p)
      | rest => (l, rest, p)
    match rest with
    | [] => p.breakOff (if builtin then "missing format character"
        else "%: invalid conversion specification")
    | c :: rest =>
      if "sbcdiuoxXfegFEG".toList.contains c then
        let p := convert builtin l c p
        if p.stopped then p else once builtin fuel p rest
      else
        p.breakOff ("%" ++ String.singleton c ++
          (if builtin then ": invalid directive" else ": invalid conversion specification"))
  | fuel + 1, '\\' :: c :: rest =>
    if c = 'c' ∧ !builtin then { p with stopped := true }
    else if isOctal c then
      let digits := ((c :: rest).take 3).takeWhile isOctal
      once builtin fuel (p.add [octalByte digits]) ((c :: rest).drop digits.length)
    else if c = 'x' ∧ !builtin then
      let digits := (rest.take 2).takeWhile fun c => (hexValue? c).isSome
      let n := digits.foldl (fun n c => n * 16 + (hexValue? c).getD 0) 0
      once builtin fuel (p.add [Char.ofNat n]) (rest.drop digits.length)
    else if c = '"' then once builtin fuel (p.add ['"']) rest
    else
      match letterEscape? c with
      | some d => once builtin fuel (p.add [d]) rest
      | none => once builtin fuel (p.add ['\\', c]) rest
  | fuel + 1, c :: rest => once builtin fuel (p.add [c]) rest

/-- Prints the format again as long as arguments are left and it uses them up. -/
def rounds (builtin : Bool) (format : List Char) (fuel : Nat) (p : Printing) : Printing :=
  match fuel with
  | 0 => p
  | fuel + 1 =>
    let p := once builtin (format.length + 1) { p with used := false } format
    if p.stopped || p.args.isEmpty || !p.used then p else rounds builtin format fuel p

/-- Words by a format. -/
def formatted (builtin : Bool) (format : String) (args : List String) : Printing :=
  rounds builtin format.toList (args.length + 1) { args := args }

/-- What was printed. -/
def Printing.output (p : Printing) : String := String.ofList p.text.reverse

/-- The program that prints words with spaces between them. -/
def echo : Tool := fun p args => do
  say p (echoedPlainly args)
  return Tool.success

/-- The program that prints words by a format. -/
def printf : Tool := fun p args => do
  match args with
  | [] =>
    complain p "printf: missing operand\nTry 'printf --help' for more information.\n"
    return .exited 1
  | format :: args =>
    let printing := formatted false format args
    say p printing.output
    for fault in printing.faults do
      Tool.report p "printf" fault
    return Tool.endWith printing.faults.isEmpty

end Errand.Machine.Print
