import Errand.Machine.Tool.Print

/-!
# Errand — programs that pass text on

The small programs that read text and write some of it, or another text made
from it.

* `cat`, `head`, `tail`, `tee`          — the text itself, or an end of it.
* `wc`, `sort`, `uniq`, `cut`, `tac`, `nl`, `paste` — by lines.
* `tr`                                  — by characters.
* `seq`, `yes`, `basename`, `dirname`   — text made from the arguments.
-/

namespace Errand.Machine.Tool

-- ---------------------------------------------------------------------------
-- The text itself
-- ---------------------------------------------------------------------------

/-- A number before a line, as wide as six characters. -/
def lineNumber (n : Nat) : List Char :=
  let digits := (toString n).toList
  List.replicate (6 - digits.length) ' ' ++ digits ++ ['\t']

/-- The characters of a text with a number before every line that `counts`. -/
def numbered (counts : List Char → Bool) (n : Nat) : List (List Char) → List (List Char)
  | [] => []
  | line :: rest =>
    if counts line then (lineNumber n ++ line) :: numbered counts (n + 1) rest
    else line :: numbered counts n rest

/-- Lines joined again; the last one has a line break only if the text had one. -/
def relined (text : List Char) (lines : List (List Char)) : String :=
  let joint := unlines lines
  if text.getLast? = some '\n' ∨ text.isEmpty then joint else (joint.dropEnd 1).toString

/-- Writes the files named, one after the other. -/
def cat : Tool := fun p args => do
  let o := Options.read "" args
  let (texts, allWell) ← inputs p "cat" plainComplaint (inputNames o.operands)
  for (_, text) in texts do
    if o.has "n" then say p (relined text (numbered (fun _ => true) 1 (linesOf text)))
    else if o.has "b" then
      say p (relined text (numbered (fun line => !line.isEmpty) 1 (linesOf text)))
    else if o.has "E" ∨ o.has "A" ∨ o.has "e" then
      say p (String.ofList (text.flatMap fun c => if c = '\n' then ['$', '\n'] else [c]))
    else say p (String.ofList text)
  return endWith allWell

/-- A count as the options of `head` and `tail` write it. -/
def count? (written : String) : Option Nat :=
  let digits := written.toList.takeWhile Char.isDigit
  let factor := match String.ofList (written.toList.drop digits.length) with
    | "" => some 1
    | "b" => some 512
    | "kB" => some 1000
    | "K" | "k" | "KiB" => some 1024
    | "MB" => some 1000000
    | "M" | "MiB" => some 1048576
    | _ => none
  if digits.isEmpty then none
  else factor.map fun f => f * digits.foldl (fun n c => n * 10 + (c.toNat - 48)) 0

/-- The older way to write a number of lines, put in the newer words. -/
def withCount : List String → List String
  | arg :: rest => match arg.toList with
    | '-' :: c :: cs => if c.isDigit then "-n" :: String.ofList (c :: cs) :: rest else arg :: rest
    | _ => arg :: rest
  | [] => []

/-- The heading of a file among several. -/
def heading (isFirst : Bool) (name : String) : String :=
  (if isFirst then "" else "\n") ++ "==> " ++ (if name = "-" then "standard input" else name) ++
    " <==\n"

/-- The first bytes or lines of a text; a count after a dash leaves so many out at the end. -/
def firstPart (byBytes : Bool) (written : String) (text : List Char) : Option (List Char) :=
  let lines (n : Nat) := ((linesOf text).take n).flatMap fun line => line ++ ['\n']
  let cut (n : Nat) := (lines n).take text.length
  match written.toList with
  | '-' :: digits => do
    let n ← count? (String.ofList digits)
    return if byBytes then text.take (text.length - n) else cut ((linesOf text).length - n)
  | _ => do
    let n ← count? written
    return if byBytes then text.take n else cut n

/-- Writes the starts of the files named. -/
def head : Tool := fun p args => do
  let o := Options.read "nc" (withCount args)
  let byBytes := o.has "c" || o.has "bytes"
  let written := if byBytes then ((o.value? "c").orElse fun _ => o.value? "bytes").getD "10"
    else ((o.value? "n").orElse fun _ => o.value? "lines").getD "10"
  let names := inputNames o.operands
  let mut allWell := true
  let mut isFirst := true
  if (firstPart byBytes written []).isNone then
    report p "head" ("invalid number of " ++ (if byBytes then "bytes" else "lines") ++ ": " ++
      quoted written)
    return .exited 1
  for name in names do
    let found ← if name = "-" then pure (p.channel? 0 |>.elim (.error .badDescriptor) .ok)
      else openForReading p name
    match found with
    | .error fault =>
      report p "head" (openComplaint name fault)
      allWell := false
    | .ok id =>
      let direct := if byBytes then count? written else none
      let text ← match direct with
        | some n => takeChannel id n
        | none => match ← channel id with
          | .endless _ _ => takeChannel id (65536 * 16)
          | _ => drainChannel id
      if 1 < names.length then say p (heading isFirst name)
      say p (String.ofList ((firstPart byBytes written text).getD []))
      isFirst := false
  return endWith allWell

/-- The last bytes or lines of a text; a count after a plus sign is where they start. -/
def lastPart (byBytes : Bool) (written : String) (text : List Char) : Option (List Char) :=
  let from? (n : Nat) :=
    let skipped := ((linesOf text).take n).flatMap fun line => line ++ ['\n']
    text.drop skipped.length
  match written.toList with
  | '+' :: digits => do
    let n ← count? (String.ofList digits)
    return if byBytes then text.drop (n - 1) else from? (n - 1)
  | cs => do
    let n ← count? (String.ofList (if cs.head? = some '-' then cs.drop 1 else cs))
    return if byBytes then text.drop (text.length - n) else from? ((linesOf text).length - n)

/-- Writes the ends of the files named. -/
def tail : Tool := fun p args => do
  let o := Options.read "nc" (withCount args)
  let byBytes := o.has "c" || o.has "bytes"
  let written := if byBytes then ((o.value? "c").orElse fun _ => o.value? "bytes").getD "10"
    else ((o.value? "n").orElse fun _ => o.value? "lines").getD "10"
  let names := inputNames o.operands
  let (texts, allWell) ← inputs p "tail" openComplaint names
  for ((name, text), i) in texts.zipIdx do
    match lastPart byBytes written text with
    | none =>
      report p "tail" ("invalid number of " ++ (if byBytes then "bytes" else "lines") ++ ": " ++
        quoted written)
      return .exited 1
    | some part =>
      if 1 < names.length then say p (heading (i = 0) name)
      say p (String.ofList part)
  return endWith allWell

/-- Passes standard input on, and writes it to the files named too. -/
def tee : Tool := fun p args => do
  let o := Options.read "" args
  let text ← readAll p 0
  say p (String.ofList text)
  let mut allWell := true
  for name in o.operands do
    match ← openForWriting p name (o.has "a" || o.has "append") with
    | .ok id => if !text.isEmpty then writeChannel id (String.ofList text)
    | .error fault =>
      report p "tee" (plainComplaint name fault)
      allWell := false
  return endWith allWell

-- ---------------------------------------------------------------------------
-- By lines
-- ---------------------------------------------------------------------------

/-- What is counted of a text. -/
structure Counts where
  lines : Nat := 0
  words : Nat := 0
  bytes : Nat := 0
  deriving Inhabited

/-- The number of words of a text. -/
def wordCount (text : List Char) : Nat :=
  let step (state : Nat × Bool) (c : Char) : Nat × Bool :=
    let isSpace := c = ' ' || (9 ≤ c.toNat && c.toNat ≤ 13)
    if isSpace then (state.1, false) else (if state.2 then state.1 else state.1 + 1, true)
  (text.foldl step (0, false)).1

/-- The counts of a text. -/
def countsOf (text : List Char) : Counts :=
  ⟨text.countP fun c => c = '\n', wordCount text, text.length⟩

/-- A number at the end of a column. -/
def column (width n : Nat) : String :=
  let digits := toString n
  String.ofList (List.replicate (width - digits.length) ' ') ++ digits

/-- Counts lines, words and bytes. -/
def wc : Tool := fun p args => do
  let o := Options.read "" args
  let wantsLines := o.has "l" || o.has "lines"
  let wantsWords := o.has "w" || o.has "words"
  let wantsBytes := o.has "c" || o.has "m" || o.has "bytes" || o.has "chars"
  let all := !(wantsLines || wantsWords || wantsBytes)
  let (texts, allWell) ← inputs p "wc" plainComplaint (inputNames o.operands)
  let counted := texts.map fun (name, text) => (name, countsOf text)
  let columns (c : Counts) : List Nat :=
    (if wantsLines || all then [c.lines] else []) ++ (if wantsWords || all then [c.words] else [])
      ++ (if wantsBytes || all then [c.bytes] else [])
  let isSingle := texts.length = 1 ∧ (columns {}).length = 1
  let bytes := (counted.map fun (_, c) => c.bytes).foldl (· + ·) 0
  let width :=
    if isSingle then 1
    else if o.operands.isEmpty ∨ o.operands.contains "-" then 7
    else (toString bytes).length
  let line (c : Counts) (name : String) : String :=
    String.intercalate " " ((columns c).map (column width)) ++
      (if name.isEmpty then "" else " " ++ name) ++ "\n"
  for (name, c) in counted do
    say p (line c (if o.operands.isEmpty then "" else name))
  if 1 < o.operands.length then
    let total := counted.foldl
      (fun (t : Counts) (_, c) => ⟨t.lines + c.lines, t.words + c.words, t.bytes + c.bytes⟩) {}
    say p (line total "total")
  return endWith allWell

/-- The number at the start of a line, for sorting. -/
def leadingNumber (line : List Char) : Int :=
  let cs := line.dropWhile (· = ' ')
  let (sign, cs) := match cs with
    | '-' :: rest => ((-1 : Int), rest)
    | cs => (1, cs)
  sign * ((cs.takeWhile Char.isDigit).foldl (fun n c => n * 10 + (c.toNat - 48)) 0 : Nat)

/-- A line stands before another one, or is equal to it, in the order of bytes. -/
def precedes (a b : List Char) : Bool := String.ofList a ≤ String.ofList b

/-- Writes lines in order. -/
def sort : Tool := fun p args => do
  let o := Options.read "kto" args
  let (texts, allWell) ← inputs p "sort" (fun name fault => "cannot read: " ++ name ++ ": " ++
    fault.text) (inputNames o.operands)
  if !allWell then return .exited 2
  let lines := texts.flatMap fun (_, text) => linesOf text
  let le (a b : List Char) : Bool :=
    if o.has "n" then
      let m := leadingNumber a
      let n := leadingNumber b
      if m = n then precedes a b else decide (m < n)
    else precedes a b
  let sorted := lines.mergeSort le
  let sorted := if o.has "r" then sorted.reverse else sorted
  let sorted := if o.has "u" then sorted.eraseReps else sorted
  match o.value? "o" with
  | none => say p (unlines sorted)
  | some name =>
    match ← openForWriting p name false with
    | .ok id => writeChannel id (unlines sorted)
    | .error fault => report p "sort" ("open failed: " ++ name ++ ": " ++ fault.text)
  return success

/-- Runs of equal lines: each line with the length of its run. -/
def runs (lines : List (List Char)) : List (List Char × Nat) :=
  lines.foldr
    (fun line runs => match runs with
      | (other, n) :: rest => if other = line then (line, n + 1) :: rest else (line, 1) :: runs
      | [] => [(line, 1)])
    []

/-- Writes each run of equal lines once. -/
def uniq : Tool := fun p args => do
  let o := Options.read "" args
  let (texts, allWell) ← inputs p "uniq" plainComplaint (inputNames (o.operands.take 1))
  if !allWell then return .exited 1
  let found := runs (texts.flatMap fun (_, text) => linesOf text)
  let found := if o.has "d" then found.filter fun r => 1 < r.2 else found
  let found := if o.has "u" then found.filter fun r => r.2 = 1 else found
  let shown := found.map fun (line, n) =>
    if o.has "c" then (column 7 n ++ " ").toList ++ line else line
  say p (unlines shown)
  return success

/-- The ranges of a list of fields, such as 1,3-5 or 2- . -/
def rangesOf (written : String) : List (Nat × Option Nat) :=
  (written.splitOn ",").map fun part =>
    match part.splitOn "-" with
    | [one] => let n := one.toNat?.getD 1; (n, some n)
    | first :: last :: _ => (first.toNat?.getD 1, last.toNat?)
    | [] => (1, none)

/-- A place belongs to one of the ranges. -/
def inFields (ranges : List (Nat × Option Nat)) (n : Nat) : Bool :=
  ranges.any fun (first, last) => first ≤ n && last.all fun m => n ≤ m

/-- A text split at every place of a character. -/
def splitAtChar (separator : Char) (cs : List Char) : List (List Char) :=
  cs.foldr
    (fun c parts => match parts with
      | [] => if c = separator then [[], []] else [[c]]
      | part :: rest => if c = separator then [] :: part :: rest else (c :: part) :: rest)
    [[]]

/-- Writes some fields or characters of every line. -/
def cut : Tool := fun p args => do
  let o := Options.read "dfcb" args
  let (texts, allWell) ← inputs p "cut" plainComplaint (inputNames o.operands)
  let separator := ((o.value? "d").bind fun d => d.toList.head?).getD '\t'
  let chosen (line : List Char) : Option (List Char) :=
    match o.value? "f", (o.value? "c").orElse fun _ => o.value? "b" with
    | some written, _ =>
      let ranges := rangesOf written
      if !line.contains separator then if o.has "s" then none else some line
      else
        let fields := (splitAtChar separator line).zipIdx.filter fun (_, i) =>
          inFields ranges (i + 1)
        some ([separator].intercalate (fields.map Prod.fst))
    | none, some written =>
      let ranges := rangesOf written
      some ((line.zipIdx.filter fun (_, i) => inFields ranges (i + 1)).map Prod.fst)
    | none, none => some line
  say p (unlines ((texts.flatMap fun (_, text) => linesOf text).filterMap chosen))
  return endWith allWell

/-- Writes the lines of each file in reverse order. -/
def tac : Tool := fun p args => do
  let o := Options.read "" args
  let (texts, allWell) ← inputs p "tac" (fun name fault => "failed to open " ++ quoted name ++
    " for reading: " ++ fault.text) (inputNames o.operands)
  for (_, text) in texts do
    let parts := (linesOf text).reverse
    match text.getLast?, parts with
    | some '\n', _ => say p (unlines parts)
    | some _, last :: rest => say p (String.ofList last ++ unlines rest)
    | _, _ => pure ()
  return endWith allWell

/-- Writes lines with their numbers, those without text excepted. -/
def nl : Tool := fun p args => do
  let o := Options.read "bnvw" args
  let (texts, allWell) ← inputs p "nl" plainComplaint (inputNames o.operands)
  let all := o.value? "b" = some "a"
  let lines := texts.flatMap fun (_, text) => linesOf text
  let counts (line : List Char) : Bool := all || !line.isEmpty
  let marked := numbered counts 1 lines
  let shown := (lines.zip marked).map fun (line, shown) =>
    if counts line then shown else List.replicate 7 ' ' ++ line
  say p (unlines shown)
  return endWith allWell

/-- Writes the lines of several files side by side, or those of each in one line. -/
def paste : Tool := fun p args => do
  let o := Options.read "d" args
  let (texts, allWell) ← inputs p "paste" plainComplaint (inputNames o.operands)
  let separator := ((o.value? "d").bind fun d => d.toList.head?).getD '\t'
  let columns := texts.map fun (_, text) => linesOf text
  if o.has "s" then
    say p (unlines (columns.map fun lines => [separator].intercalate lines))
  else
    let height := (columns.map List.length).foldl max 0
    say p (unlines ((List.range height).map fun i =>
      [separator].intercalate (columns.map fun lines => lines[i]?.getD [])))
  return endWith allWell

-- ---------------------------------------------------------------------------
-- By characters
-- ---------------------------------------------------------------------------

/-- The characters of a named class, in order. -/
def classMembers (name : String) : List Char :=
  let all := (List.range 256).map Char.ofNat
  let isPunctuation (c : Char) : Bool :=
    33 ≤ c.toNat && c.toNat ≤ 126 && !c.isAlphanum
  match name with
  | "upper" => all.filter Char.isUpper
  | "lower" => all.filter Char.isLower
  | "alpha" => all.filter Char.isAlpha
  | "digit" => all.filter Char.isDigit
  | "alnum" => all.filter Char.isAlphanum
  | "space" => all.filter fun c => c = ' ' || (9 ≤ c.toNat && c.toNat ≤ 13)
  | "blank" => ['\t', ' ']
  | "punct" => all.filter isPunctuation
  | "cntrl" => all.filter fun c => c.toNat < 32 || c.toNat = 127
  | "print" => all.filter fun c => 32 ≤ c.toNat && c.toNat ≤ 126
  | "graph" => all.filter fun c => 33 ≤ c.toNat && c.toNat ≤ 126
  | "xdigit" => all.filter fun c => c.isDigit || ('A' ≤ c && c ≤ 'F') || ('a' ≤ c && c ≤ 'f')
  | _ => []

/-- A character of a set, and what follows it. -/
def memberAt (cs : List Char) : Option (Char × List Char) :=
  match cs with
  | [] => none
  | '\\' :: c :: rest =>
    if Print.isOctal c then
      let digits := ((c :: rest).take 3).takeWhile Print.isOctal
      some (Print.octalByte digits, (c :: rest).drop digits.length)
    else some ((Print.letterEscape? c).getD c, rest)
  | c :: rest => some (c, rest)

/-- The characters of a written set: ranges, classes and escapes are put in full. -/
def membersOf (fuel : Nat) (cs : List Char) : List Char :=
  match fuel, cs with
  | 0, _ | _, [] => []
  | fuel + 1, '[' :: ':' :: rest =>
    let name := rest.takeWhile Char.isAlpha
    match rest.drop name.length with
    | ':' :: ']' :: rest => classMembers (String.ofList name) ++ membersOf fuel rest
    | _ => '[' :: membersOf fuel (':' :: rest)
  | fuel + 1, cs =>
    match memberAt cs with
    | none => []
    | some (first, '-' :: c :: rest) =>
      match memberAt (c :: rest) with
      | some (last, rest) =>
        (List.range (last.toNat + 1 - first.toNat)).map (fun i => Char.ofNat (first.toNat + i)) ++
          membersOf fuel rest
      | none => first :: membersOf fuel ('-' :: c :: rest)
    | some (c, rest) => c :: membersOf fuel rest

/-- A written set of characters. -/
def setOf (written : String) : List Char := membersOf (written.length + 1) written.toList

/-- The character that takes the place of another: the one at its place in the second set. -/
def recoded (source target : List Char) (c : Char) : Char :=
  match source.reverse.findIdx? (· = c) with
  | some i =>
    let place := source.length - 1 - i
    (target[place]?.orElse fun _ => target.getLast?).getD c
  | none => c

/-- A text in which runs of characters of a set are single ones. -/
def squeezed (set : List Char) (cs : List Char) : List Char :=
  (cs.foldl
    (fun (read : List Char) c => if set.contains c && read.head? = some c then read else c :: read)
    []).reverse

/-- Replaces, removes or squeezes characters. -/
def tr : Tool := fun p args => do
  let o := Options.read "" args
  let sets := o.operands.map setOf
  let complemented := o.has "c" || o.has "C"
  let first := sets.headD []
  let second := sets[1]?.getD []
  if o.operands.isEmpty then
    report p "tr" "missing operand\nTry 'tr --help' for more information."
    return .exited 1
  if sets.length = 1 ∧ !o.has "d" ∧ !o.has "s" then
    report p "tr" ("missing operand after " ++ quoted (o.operands.headD "") ++
      "\nTwo strings must be given when translating.\nTry 'tr --help' for more information.")
    return .exited 1
  let text ← readAll p 0
  let source := if complemented then
      ((List.range 256).map Char.ofNat).filter fun c => !first.contains c
    else first
  let text :=
    if o.has "d" then text.filter fun c => !source.contains c
    else if sets.length = 1 then text
    else
      let table := ((List.range 256).map fun n =>
        recoded source second (Char.ofNat n)).toArray
      text.map fun c => table.getD c.toNat c
  let text := if o.has "s" then squeezed (if sets.length = 1 then source else second) text else text
  say p (String.ofList text)
  return success

-- ---------------------------------------------------------------------------
-- Text made from the arguments
-- ---------------------------------------------------------------------------

/-- Numbers from one to another by steps. -/
def steps (first step last : Int) : List Int :=
  if step = 0 then []
  else
    let count := (last - first) / step + 1
    (List.range count.toNat).map fun (i : Nat) => first + step * (i : Int)

/-- Writes the numbers of a range. -/
def seq : Tool := fun p args => do
  let (separator, args) := match args with
    | "-s" :: s :: rest => (s, rest)
    | args => ("\n", args)
  let bounds := match args.mapM String.toInt? with
    | some [last] => some (1, 1, last)
    | some [first, last] => some (first, 1, last)
    | some [first, step, last] => some (first, step, last)
    | _ => none
  match bounds with
  | none =>
    match args.find? fun a => a.toInt?.isNone with
    | some bad =>
      report p "seq" ("invalid floating point argument: " ++ quoted bad ++
        "\nTry 'seq --help' for more information.")
    | none => report p "seq" "missing operand\nTry 'seq --help' for more information."
    return .exited 1
  | some (first, step, last) =>
    let ns := steps first step last
    if !ns.isEmpty then say p (String.intercalate separator (ns.map toString) ++ "\n")
    return success

/-- Writes a line over and over. -/
def yes : Tool := fun p args => do
  let line := (if args.isEmpty then "y" else String.intercalate " " args) ++ "\n"
  match p.channel? 1 with
  | none => return .exited 1
  | some id =>
    match ← channel id with
    | .sink pieces =>
      setChannel id (.endless (inOrder pieces).toList line.toList)
    | _ => pure ()
    return success

/-- The last name of a path. -/
def lastName (path : String) : String :=
  if path.isEmpty then ""
  else ((path.splitOn "/").filter fun name => !name.isEmpty).getLast?.getD "/"

/-- Writes the last name of a path, without an ending. -/
def basename : Tool := fun p args => do
  match (Options.read "s" args).operands with
  | [] =>
    report p "basename" "missing operand\nTry 'basename --help' for more information."
    return .exited 1
  | path :: rest =>
    let name := lastName path
    let ending := rest.headD ""
    let cutName := if name.endsWith ending ∧ name ≠ ending then
        (name.dropEnd ending.length).toString
      else name
    say p (cutName ++ "\n")
    return success

/-- The path of the directory in which a path stands. -/
def parentName (path : String) : String :=
  let trimmed := path.toList.reverse.dropWhile (· = '/')
  if trimmed.isEmpty then if path.isEmpty then "." else "/"
  else
    let above := trimmed.dropWhile (· ≠ '/')
    if above.isEmpty then "."
    else
      let dir := (above.dropWhile (· = '/')).reverse
      if dir.isEmpty then "/" else String.ofList dir

/-- Writes the path of the directory in which a path stands. -/
def dirname : Tool := fun p args => do
  match (Options.read "" args).operands with
  | [] =>
    report p "dirname" "missing operand\nTry 'dirname --help' for more information."
    return .exited 1
  | paths =>
    for path in paths do
      say p (parentName path ++ "\n")
    return success

/-- A length of time in thousandths of a second, as it is written. -/
def milliseconds? (written : String) : Option Nat := do
  let (digits, unit) := written.toList.span fun c => c.isDigit || c = '.'
  let factor ← match unit with
    | [] | ['s'] => some 1000
    | ['m'] => some 60000
    | ['h'] => some 3600000
    | ['d'] => some 86400000
    | _ => none
  let (whole, fraction) := digits.span Char.isDigit
  let fraction := fraction.drop 1
  if whole.isEmpty ∧ fraction.isEmpty ∨ fraction.contains '.' then none
  else
    let n := (whole ++ fraction).foldl (fun n c => n * 10 + (c.toNat - 48)) 0
    some (n * factor / Nat.pow 10 fraction.length)

/-- Waits. -/
def sleep : Tool := fun p args => do
  match args.mapM milliseconds? with
  | some [] =>
    report p "sleep" "missing operand\nTry 'sleep --help' for more information."
    return .exited 1
  | some times =>
    pass (times.foldl (· + ·) 0)
    return success
  | none =>
    for bad in args.filter fun a => (milliseconds? a).isNone do
      report p "sleep" ("invalid time interval " ++ quoted bad)
    complain p "Try 'sleep --help' for more information.\n"
    return .exited 1

/-- The value of a sum, product or comparison of two words, as `expr` prints it. -/
def calculated (a op b : String) : Option (Except String String) :=
  let ofBool (h : Bool) : String := if h then "1" else "0"
  match a.toInt?, b.toInt? with
  | some m, some n => match op with
    | "+" => some (.ok (toString (m + n)))
    | "-" => some (.ok (toString (m - n)))
    | "*" => some (.ok (toString (m * n)))
    | "/" => some (if n = 0 then .error "division by zero" else .ok (toString (m.tdiv n)))
    | "%" => some (if n = 0 then .error "division by zero" else .ok (toString (m.tmod n)))
    | "=" => some (.ok (ofBool (m = n)))
    | "!=" => some (.ok (ofBool (m ≠ n)))
    | "<" => some (.ok (ofBool (m < n)))
    | "<=" => some (.ok (ofBool (m ≤ n)))
    | ">" => some (.ok (ofBool (n < m)))
    | ">=" => some (.ok (ofBool (n ≤ m)))
    | _ => none
  | _, _ => match op with
    | "+" | "-" | "*" | "/" | "%" => some (.error "non-integer argument")
    | "=" => some (.ok (ofBool (a = b)))
    | "!=" => some (.ok (ofBool (a ≠ b)))
    | "<" => some (.ok (ofBool (a < b)))
    | "<=" => some (.ok (ofBool (a ≤ b)))
    | ">" => some (.ok (ofBool (b < a)))
    | ">=" => some (.ok (ofBool (b ≤ a)))
    | _ => none

/-- Prints the value of a short expression; nothing and zero count as a failure. -/
def expr : Tool := fun p args => do
  let value : Except String String := match args with
    | [] => .error "missing operand\nTry 'expr --help' for more information."
    | [a] => .ok a
    | ["length", a] => .ok (toString a.length)
    | [a, op, b] =>
      (calculated a op b).getD (.error ("syntax error: unexpected argument " ++ quoted op))
    | _ :: b :: _ => .error ("syntax error: unexpected argument " ++ quoted b)
  match value with
  | .error reason =>
    report p "expr" reason
    return .exited 2
  | .ok text =>
    say p (text ++ "\n")
    return endWith !(text = "" || text = "0")

end Errand.Machine.Tool
