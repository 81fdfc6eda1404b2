import Errand.Machine.Tool.Basic

/-!
# Errand — merging texts

What two texts made of a common one are put together: changes that keep apart
are all taken, changes that meet are a conflict unless both sides came to the
same text.

* `TextMerge.changes` — what makes one text of another, by lines.
* `TextMerge.merge`   — two texts put together.
-/

namespace Errand.Machine.Git.TextMerge

-- ---------------------------------------------------------------------------
-- Changes
-- ---------------------------------------------------------------------------

/-- Lines, each with its line break; the last one may lack it. -/
def linesOf (text : String) : List String :=
  let cs := text.toList
  let whole := Tool.linesOf cs
  let lines := whole.map fun line => String.ofList line ++ "\n"
  if cs.getLast? = some '\n' ∨ cs.isEmpty then lines
  else lines.dropLast ++ (whole.getLast?.map String.ofList).toList

/-- Some lines of the old text that are replaced by others. -/
structure Change where
  start : Nat
  count : Nat
  lines : List String
  deriving DecidableEq, Inhabited, Repr

/-- The place after the lines that a change replaces. -/
def Change.stop (c : Change) : Nat := c.start + c.count

/-- For each rest of the new text, how many lines it has in common with a rest of the old one. -/
def nextRow (line : String) (new : List String) (row : List Nat) : List Nat :=
  match new, row with
  | n :: new, here :: row =>
    let rest := nextRow line new row
    (if n = line then row.headD 0 + 1 else max here (rest.headD 0)) :: rest
  | _, _ => [0]

/-- For each rest of the old text a row: how much it has in common with each rest of the new one. -/
def commonTable (old new : List String) : List (List Nat) :=
  old.foldr (fun line rows => nextRow line new (rows.headD []) :: rows)
    [List.replicate (new.length + 1) 0]

/-- Adds a line to the change begun at a place. -/
def addTo (place : Nat) (removed : Nat) (added : List String) (found : List Change) :
    List Change :=
  match found with
  | c :: rest =>
    if c.stop = place then ⟨c.start, c.count + removed, c.lines ++ added⟩ :: rest
    else ⟨place, removed, added⟩ :: c :: rest
  | [] => [⟨place, removed, added⟩]

/-- The changes between two texts from some places on; those found so far come latest first. -/
def walk (fuel place : Nat) (old new : List String) (rows : List (List Nat))
    (found : List Change) : List Change :=
  match fuel with
  | 0 => found.reverse
  | fuel + 1 =>
    match old, new with
    | [], [] => found.reverse
    | [], n :: new => walk fuel place [] new (rows.map (List.drop 1)) (addTo place 0 [n] found)
    | _ :: old, [] => walk fuel (place + 1) old [] (rows.drop 1) (addTo place 1 [] found)
    | o :: old, n :: new =>
      if o = n then walk fuel (place + 1) old new ((rows.drop 1).map (List.drop 1)) found
      else
        let below := ((rows[1]?).getD []).headD 0
        let beside := ((rows.headD []).drop 1).headD 0
        if beside ≤ below then
          walk fuel (place + 1) old (n :: new) (rows.drop 1) (addTo place 1 [] found)
        else walk fuel place (o :: old) new (rows.map (List.drop 1)) (addTo place 0 [n] found)

/-- The number of lines that two texts begin with in common. -/
def commonStart : List String → List String → Nat
  | a :: as, b :: bs => if a = b then commonStart as bs + 1 else 0
  | _, _ => 0

/-- What makes one text of another. -/
def changes (old new : List String) : List Change :=
  let before := commonStart old new
  let old := old.drop before
  let new := new.drop before
  let after := commonStart old.reverse new.reverse
  let old := old.take (old.length - after)
  let new := new.take (new.length - after)
  if old.isEmpty ∧ new.isEmpty then []
  else if old.isEmpty ∨ new.isEmpty then [⟨before, old.length, new⟩]
  else walk (old.length + new.length + 1) before old new (commonTable old new) []

-- ---------------------------------------------------------------------------
-- Merging
-- ---------------------------------------------------------------------------

/-- The names of the two sides of a merge. -/
structure Sides where
  ours : String
  theirs : String
  deriving DecidableEq, Inhabited, Repr

/-- The lines of the common text in a range, after the changes in that range. -/
def applied (base : List String) (start stop : Nat) (cs : List Change) : List String :=
  match cs with
  | [] => (base.drop start).take (stop - start)
  | c :: rest =>
    (base.drop start).take (c.start - start) ++ c.lines ++ applied base c.stop stop rest

/-- Takes the changes off a list that meet a range; the range grows with them. -/
def absorb (fuel stop : Nat) (ours theirs : List Change) :
    Nat × List Change × List Change × List Change × List Change :=
  match fuel with
  | 0 => (stop, [], [], ours, theirs)
  | fuel + 1 =>
    match ours, theirs with
    | c :: rest, theirs =>
      if c.start ≤ stop then
        let (stop, a, b, ours, theirs) := absorb fuel (max stop c.stop) rest theirs
        (stop, c :: a, b, ours, theirs)
      else
        match theirs with
        | d :: more =>
          if d.start ≤ stop then
            let (stop, a, b, ours, theirs) := absorb fuel (max stop d.stop) (c :: rest) more
            (stop, a, d :: b, ours, theirs)
          else (stop, [], [], c :: rest, d :: more)
        | [] => (stop, [], [], c :: rest, [])
    | [], d :: more =>
      if d.start ≤ stop then
        let (stop, a, b, ours, theirs) := absorb fuel (max stop d.stop) [] more
        (stop, a, d :: b, ours, theirs)
      else (stop, [], [], [], d :: more)
    | [], [] => (stop, [], [], [], [])

/-- Changes that lie at most three lines apart, joined; the text is what was changed. -/
def joined (text : List String) : List Change → List Change
  | [] => []
  | c :: rest =>
    match joined text rest with
    | d :: more =>
      if d.start ≤ c.stop + 3 then
        let between := (text.drop c.stop).take (d.start - c.stop)
        ⟨c.start, d.stop - c.start, c.lines ++ between ++ d.lines⟩ :: more
      else c :: d :: more
    | [] => [c]

/-- A text that ends with a line break. -/
def closed (lines : List String) : String :=
  let text := String.join lines
  if text.isEmpty ∨ text.endsWith "\n" then text else text ++ "\n"

/-- Both sides of a conflict between their marks. -/
def marked (sides : Sides) (ours theirs : List String) : String :=
  "<<<<<<< " ++ sides.ours ++ "\n" ++ closed ours ++ "=======\n" ++ closed theirs ++
    ">>>>>>> " ++ sides.theirs ++ "\n"

/-- The text of a range in which both sides changed lines, and whether they agree. -/
def settled (sides : Sides) (ours theirs : List String) : String × Bool :=
  if ours = theirs then (String.join ours, true)
  else
    let rec between (place : Nat) : List Change → String
      | [] => String.join (ours.drop place)
      | c :: rest =>
        String.join ((ours.drop place).take (c.start - place)) ++
          marked sides ((ours.drop c.start).take c.count) c.lines ++ between c.stop rest
    (between 0 (joined ours (changes ours theirs)), false)

/-- Puts changes together from a place of the common text on. -/
def combine (sides : Sides) (base : List String) (fuel place : Nat)
    (ours theirs : List Change) : String × Bool :=
  match fuel with
  | 0 => (String.join (base.drop place), true)
  | fuel + 1 =>
    let first := match ours, theirs with
      | c :: _, d :: _ => some (min c.start d.start)
      | c :: _, [] => some c.start
      | [], d :: _ => some d.start
      | [], [] => none
    match first with
    | none => (String.join (base.drop place), true)
    | some start =>
      let (stop, a, b, ours, theirs) := absorb (ours.length + theirs.length + 1) start ours theirs
      let before := String.join ((base.drop place).take (start - place))
      let (here, agrees) :=
        if b.isEmpty then (String.join (applied base start stop a), true)
        else if a.isEmpty then (String.join (applied base start stop b), true)
        else settled sides (applied base start stop a) (applied base start stop b)
      let (after, cleanly) := combine sides base fuel stop ours theirs
      (before ++ here ++ after, agrees && cleanly)

/-- Two texts made of a common one, put together, and whether that went without a conflict. -/
def merge (sides : Sides) (base ours theirs : String) : String × Bool :=
  let lines := linesOf base
  let a := changes lines (linesOf ours)
  let b := changes lines (linesOf theirs)
  combine sides lines (a.length + b.length + 1) 0 a b

end Errand.Machine.Git.TextMerge
