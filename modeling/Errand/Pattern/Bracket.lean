import Errand.Pattern.Escape

/-!
# Errand — sets in brackets

The notation of sets: characters, ranges, escapes, sets with names, sets within
sets, and the operators between them, which bind from the left.

* `bracketed` — the set whose opening bracket has been read, with its depth.
-/

namespace Errand.Pattern

-- ---------------------------------------------------------------------------
-- Sets with names
-- ---------------------------------------------------------------------------

/-- The ASCII sets that have names. -/
def namedSets : List (String × List (Nat × Nat)) :=
  [("alnum", [(48, 57), (65, 90), (97, 122)]), ("alpha", [(65, 90), (97, 122)]),
   ("ascii", [(0, 127)]), ("blank", [(9, 9), (32, 32)]), ("cntrl", [(0, 31), (127, 127)]),
   ("digit", [(48, 57)]), ("graph", [(33, 126)]), ("lower", [(97, 122)]),
   ("print", [(32, 126)]), ("punct", [(33, 47), (58, 64), (91, 96), (123, 126)]),
   ("space", [(9, 13), (32, 32)]), ("upper", [(65, 90)]),
   ("word", [(48, 57), (65, 90), (95, 95), (97, 122)]),
   ("xdigit", [(48, 57), (65, 70), (97, 102)])]

/-- A set with a name, whether its complement is meant, and what follows. -/
structure NamedSet where
  set : CharSet
  negated : Bool
  rest : List Char

/-- A set like `[:alpha:]` whose bracket has been read; with another name it is none. -/
def NamedSet.read? : List Char → Option NamedSet
  | ':' :: cs =>
    let (negated, cs) := match cs with
      | '^' :: rest => (true, rest)
      | rest => (false, rest)
    match cs.span fun c => c ≠ ':' with
    | (name, ':' :: ']' :: rest) =>
      (namedSets.find? fun entry => entry.1 = String.ofList name).map fun entry =>
        ⟨⟨entry.2⟩, negated, rest⟩
    | _ => none
  | _ => none

-- ---------------------------------------------------------------------------
-- Items
-- ---------------------------------------------------------------------------

/-- What stands at one place between brackets. -/
inductive SetItem where
  | char (c : Char)
  | set (s : CharSet)

/-- An item between brackets that is no set in brackets itself. -/
def SetItem.read? (flags : Flags) : List Char → Option (SetItem × List Char)
  | [] => none
  | '\\' :: rest => do
    match ← Escape.read? flags rest with
    | (.char c, rest) => some (.char c, rest)
    | (.set s, rest) => some (.set s, rest)
    | (.place _, _) => none
  | c :: rest => some (.char c, rest)

/-- The set from one character to another under the switches. -/
def rangeSet? (flags : Flags) (first last : Char) : Option CharSet :=
  if last < first ∨ (flags.ascii ∧ 0x7F < last.toNat) then none
  else some (flags.folded ⟨[(first.toNat, last.toNat)]⟩)

/-- The set of an item under the switches. -/
def SetItem.set? (flags : Flags) : SetItem → Option CharSet
  | .char c => rangeSet? flags c c
  | .set s => some s

/--
What decides whether a dash before it makes a range. Where blanks stand for
nothing, it is found behind blanks, one sign of a comment, and blanks again.
-/
def behindDash (flags : Flags) (cs : List Char) : Option Char :=
  if !flags.verbose then cs.head?
  else
    let after := match Text.trimFront cs with
      | '#' :: rest => Text.trimFront rest
      | rest => rest
    (after.head?).or cs.head?

/-- A character, a set or a range at the front of a text. -/
def setOrRange (flags : Flags) (cs : List Char) : Option (CharSet × List Char) := do
  let (item, rest) ← SetItem.read? flags cs
  match skip flags rest with
  | [] => none
  | '-' :: after =>
    let next := behindDash flags after
    if next = some ']' ∨ next = some '-' then
      (item.set? flags).map fun s => (s, '-' :: after)
    else
      let after := skip flags after
      match item, ← SetItem.read? flags after with
      | .char c, (.char d, rest) => (rangeSet? flags c d).map fun s => (s, rest)
      | _, _ => none
  | rest => (item.set? flags).map fun s => (s, rest)

-- ---------------------------------------------------------------------------
-- Operators
-- ---------------------------------------------------------------------------

/-- The operators between sets in brackets. -/
inductive SetOperator where
  | inter
  | diff
  | symmetric

/-- An operator between sets at the front of a text. -/
def setOperator? : List Char → Option (SetOperator × List Char)
  | '&' :: '&' :: rest => some (.inter, rest)
  | '-' :: '-' :: rest => some (.diff, rest)
  | '~' :: '~' :: rest => some (.symmetric, rest)
  | _ => none

/-- Joins two sets by an operator. -/
def SetOperator.join (op : SetOperator) (a b : CharSet) : CharSet :=
  match op with
  | .inter => a.inter b
  | .diff => a.diff b
  | .symmetric => a.symmetricDiff b

/-- What has been read of a set: an operand that waits for its operator, and the items since. -/
structure Brackets where
  left : Option (CharSet × Nat × SetOperator) := none
  items : CharSet := .empty
  /-- The number of the items, and the depth of the deepest. -/
  count : Nat := 0
  deepest : Nat := 0

/-- The state after one more item. -/
def Brackets.add (b : Brackets) (s : CharSet) (depth : Nat) : Brackets :=
  { b with items := b.items.union s, count := b.count + 1, deepest := max b.deepest depth }

/-- The set that has been read and its depth; several items nest one deeper than one. -/
def Brackets.close (b : Brackets) : CharSet × Nat :=
  let depth := if b.count ≤ 1 then b.deepest else b.deepest + 1
  match b.left with
  | some (s, leftDepth, op) => (op.join s b.items, max leftDepth depth + 1)
  | none => (b.items, depth)

/-- The state behind an operator. -/
def Brackets.operator (b : Brackets) (op : SetOperator) : Brackets :=
  let (s, depth) := b.close
  { left := some (s, depth, op) }

-- ---------------------------------------------------------------------------
-- Brackets
-- ---------------------------------------------------------------------------

/-- The dashes in front of a set, which stand for themselves, read with some fuel. -/
def openingDashes (flags : Flags) (fuel : Nat) (b : Brackets) (cs : List Char) :
    Brackets × List Char :=
  match fuel, cs with
  | fuel + 1, '-' :: rest =>
    openingDashes flags fuel (b.add (.single '-') 0) (skip flags rest)
  | _, cs => (b, cs)

/-- The start of a set: dashes, or else a closing bracket, stand for themselves. -/
def openingItems (flags : Flags) (cs : List Char) : Brackets × List Char :=
  match openingDashes flags cs.length {} cs with
  | (b, ']' :: rest) =>
    if b.count = 0 then (b.add (.single ']') 0, skip flags rest) else (b, ']' :: rest)
  | start => start

mutual
/-- A set whose opening bracket has been read, with its depth. -/
def bracketed (fuel : Nat) (flags : Flags) (cs : List Char) :
    Option ((CharSet × Nat) × List Char) :=
  match fuel with
  | 0 => none
  | fuel + 1 => do
    let (negated, cs) := match skip flags cs with
      | '^' :: rest => (true, skip flags rest)
      | rest => (false, rest)
    let (start, cs) := openingItems flags cs
    let ((s, depth), rest) ← setItems fuel flags start cs
    let s ← flags.signed? negated s
    some ((s, depth + 1), rest)

/-- The rest of a set up to its closing bracket. -/
def setItems (fuel : Nat) (flags : Flags) (b : Brackets) (cs : List Char) :
    Option ((CharSet × Nat) × List Char) :=
  match fuel with
  | 0 => none
  | fuel + 1 =>
    match skip flags cs with
    | [] => none
    | ']' :: rest => some (b.close, rest)
    | '[' :: rest =>
      match NamedSet.read? rest with
      | some n => do
        let s ← flags.signed? n.negated (flags.folded n.set)
        setItems fuel flags (b.add s 0) n.rest
      | none => do
        let ((s, depth), rest) ← bracketed fuel flags rest
        setItems fuel flags (b.add s depth) rest
    | cs =>
      match setOperator? cs with
      | some (op, rest) => setItems fuel flags (b.operator op) rest
      | none => do
        let (s, rest) ← setOrRange flags cs
        setItems fuel flags (b.add s 0) rest
end

end Errand.Pattern
