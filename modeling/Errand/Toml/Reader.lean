import Errand.Toml.Scalar

/-!
# Errand — reading settings files

A document is a sequence of lines: headers that open tables, and keys with
their values, which go into the table opened last.

* `Toml.read?`       — the members of a whole document.
* `Reader.value`     — a value and what follows it.
* `Reader.statement` — a header or a key with its value.
-/

namespace Errand.Toml.Reader

-- ---------------------------------------------------------------------------
-- Space and comments
-- ---------------------------------------------------------------------------

/-- The text after spaces and tabs. -/
def skipGap (cs : List Char) : List Char := cs.dropWhile isGap

/-- The text after a comment, if one starts here; controls are refused in it. -/
def skipComment (cs : List Char) : Option (List Char) :=
  match cs with
  | '#' :: rest =>
    let (comment, rest) := rest.span fun c => c ≠ '\n' ∧ c ≠ '\r'
    if comment.any isControl then none else some rest
  | rest => some rest

/-- The text after space, comments and line breaks, which may stand between items. -/
def skipAll (fuel : Nat) (cs : List Char) : Option (List Char) :=
  match fuel with
  | 0 => none
  | fuel + 1 => do
    let rest ← skipComment (skipGap cs)
    match lineBreak rest with
    | some rest => skipAll fuel rest
    | none => some rest

/-- The text after the end of a line, which only a comment may stand before. -/
def endLine (cs : List Char) : Option (List Char) := do
  let rest ← skipComment (skipGap cs)
  if rest.isEmpty then some [] else lineBreak rest

-- ---------------------------------------------------------------------------
-- Keys
-- ---------------------------------------------------------------------------

/-- A character of a name without quotes. -/
def isNameChar (c : Char) : Bool := c.isAlphanum || c = '_' || c = '-'

/-- One name of a key. -/
def name (cs : List Char) : Option (String × List Char) :=
  match shortText? cs with
  | some found => some found
  | none =>
    let (found, rest) := cs.span isNameChar
    if found.isEmpty then none else some (String.ofList found, rest)

/-- A key: names with points between them. -/
def key (fuel : Nat) (read : List String) (cs : List Char) : Option (List String × List Char) :=
  match fuel with
  | 0 => none
  | fuel + 1 => do
    let (found, rest) ← name (skipGap cs)
    match skipGap rest with
    | '.' :: rest => key fuel (found :: read) rest
    | rest => some ((found :: read).reverse, rest)

-- ---------------------------------------------------------------------------
-- Values
-- ---------------------------------------------------------------------------

/-- A character of a plain word. -/
def isWordChar (c : Char) : Bool :=
  c.isAlphanum || c = '_' || c = '-' || c = '+' || c = '.' || c = ':'

/-- A plain word at the front; a single space may stand between a date and a time. -/
def word (cs : List Char) : List Char × List Char :=
  let (found, rest) := cs.span isWordChar
  match date found, rest with
  | some [], ' ' :: c :: rest =>
    if c.isDigit then
      let (clock, rest) := (c :: rest).span isWordChar
      (found ++ ' ' :: clock, rest)
    else (found, ' ' :: c :: rest)
  | _, rest => (found, rest)

/-- How many arrays and tables may stand inside each other. -/
def maxDepth : Nat := 80

mutual
/-- A value at the front of a text; `depth` more brackets may be opened. -/
def value (fuel depth : Nat) (cs : List Char) : Option (Toml × List Char) :=
  match fuel with
  | 0 => none
  | fuel + 1 =>
    match cs with
    | '[' :: rest => if depth = 0 then none else items fuel (depth - 1) [] rest
    | '\x7b' :: rest => if depth = 0 then none else members fuel (depth - 1) [] rest
    | cs =>
      match quoted? cs with
      | some (s, rest) => some (.string s, rest)
      | none =>
        let (found, rest) := word cs
        (scalar? found).map fun v => (v, rest)

/-- The rest of an array; `read` holds the items so far, latest first. -/
def items (fuel depth : Nat) (read : List Toml) (cs : List Char) : Option (Toml × List Char) :=
  match fuel with
  | 0 => none
  | fuel + 1 => do
    match ← skipAll (cs.length + 1) cs with
    | ']' :: rest => some (.array read.reverse, rest)
    | rest =>
      let (item, rest) ← value fuel depth rest
      match ← skipAll (rest.length + 1) rest with
      | ',' :: rest => items fuel depth (item :: read) rest
      | ']' :: rest => some (.array (item :: read).reverse, rest)
      | _ => none

/-- The rest of a table between braces. -/
def members (fuel depth : Nat) (read : Members) (cs : List Char) : Option (Toml × List Char) :=
  match fuel with
  | 0 => none
  | fuel + 1 => do
    match ← skipAll (cs.length + 1) cs with
    | '\x7d' :: rest => some (.table .inline read, rest)
    | rest =>
      let (keys, rest) ← key (rest.length + 1) [] rest
      let rest ← after '=' rest
      let (v, rest) ← value fuel depth (skipGap rest)
      let read ← insertDotted keys v read
      match ← skipAll (rest.length + 1) rest with
      | ',' :: rest => members fuel depth read rest
      | '\x7d' :: rest => some (.table .inline read, rest)
      | _ => none
end

-- ---------------------------------------------------------------------------
-- Documents
-- ---------------------------------------------------------------------------

/-- A document so far: its members, and the header of the table opened last. -/
structure Document where
  members : Members := []
  header : List String := []
  deriving Inhabited

/-- A header of a table. -/
def tableHeader (d : Document) (cs : List Char) : Option (Document × List Char) := do
  let (keys, rest) ← key (cs.length + 1) [] cs
  let rest ← after ']' rest
  let members ← openTable keys d.members
  some (⟨members, keys⟩, rest)

/-- A header of one more table of a kind. -/
def rowHeader (d : Document) (cs : List Char) : Option (Document × List Char) := do
  let (keys, rest) ← key (cs.length + 1) [] cs
  let rest ← after ']' rest
  let rest ← after ']' rest
  let members ← openRow keys d.members
  some (⟨members, keys⟩, rest)

/-- A key with its value. -/
def assignment (d : Document) (cs : List Char) : Option (Document × List Char) := do
  let (keys, rest) ← key (cs.length + 1) [] cs
  let rest ← after '=' rest
  let (v, rest) ← value (2 * rest.length + 2) maxDepth (skipGap rest)
  let members ← alter (insertDotted keys v) d.members d.header
  some ({ d with members := members }, rest)

/-- What a line says. -/
def statement (d : Document) : List Char → Option (Document × List Char)
  | '[' :: '[' :: rest => rowHeader d rest
  | '[' :: rest => tableHeader d rest
  | rest => assignment d rest

/-- The document after the rest of a text. -/
def lines (fuel : Nat) (d : Document) (cs : List Char) : Option Document :=
  match fuel with
  | 0 => none
  | fuel + 1 => do
    match ← skipAll (cs.length + 1) cs with
    | [] => some d
    | rest =>
      let (d, rest) ← statement d rest
      let rest ← endLine rest
      lines fuel d rest

end Reader

/-- The members of a whole document; a mark at its start that tells the byte order is skipped. -/
def read? (text : String) : Option Members :=
  let cs := match text.toList with
    | c :: rest => if c.toNat = 0xFEFF then rest else c :: rest
    | [] => []
  (Reader.lines (cs.length + 1) {} cs).map Reader.Document.members

end Errand.Toml
