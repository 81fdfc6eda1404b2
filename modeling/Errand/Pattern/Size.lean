import Errand.Pattern.Bytes
import Errand.Pattern.Shape
import Std.Data.HashMap

/-!
# Errand — the size of a pattern

An expression is refused if a machine that would match it takes too much room.
The machine reads bytes; a second one reads them backward and catches no
groups. A counted repetition becomes as many copies of its body, literals to
choose from share their beginnings, and the byte rows of a set share what they
have in common as far as a bounded memory of states allows.

* `Growth`      — how far a machine has grown.
* `Shape.grow`  — the machine with the states of a shape added.
* `Shape.room`  — the room for the whole machine of a shape.
* `Tree.fits`   — there is enough room for the machines of a tree.
-/

namespace Errand.Pattern

-- ---------------------------------------------------------------------------
-- Growth
-- ---------------------------------------------------------------------------

/-- The states of a machine so far, and the room for their branches. -/
structure Growth where
  states : Nat := 0
  branches : Nat := 0
  deriving DecidableEq, Inhabited, Repr

/-- The room for a state. -/
def stateRoom : Nat := 32

/-- The room for a branch that reads a byte. -/
def byteRoom : Nat := 8

/-- The room for a branch that reads nothing. -/
def forkRoom : Nat := 4

/-- The most room that a machine may take. -/
def maxRoom : Nat := 10 * 1024 * 1024

/-- The room for all states and their branches. -/
def Growth.room (g : Growth) : Nat := g.states * stateRoom + g.branches

/-- A machine with more states that have no branches. -/
def Growth.plain (g : Growth) (n : Nat) : Growth := { g with states := g.states + n }

/-- A machine with one more state that reads one of some byte ranges. -/
def Growth.reader (g : Growth) (ranges : Nat) : Growth :=
  ⟨g.states + 1, g.branches + ranges * byteRoom⟩

/-- A machine with one more state that goes on in some ways. -/
def Growth.fork (g : Growth) (ways : Nat) : Growth :=
  ⟨g.states + 1, g.branches + ways * forkRoom⟩

/-- A step done so many times, but no longer than there is room. -/
def Growth.times (step : Growth → Growth) : Nat → Growth → Growth
  | 0, g => g
  | n + 1, g => if maxRoom < g.room then g else Growth.times step n (step g)

-- ---------------------------------------------------------------------------
-- Slots
-- ---------------------------------------------------------------------------

/-- The slot of a row of numbers: multiplied and mixed in one after the other, and cut down. -/
def slot (slots : Nat) (ns : List Nat) : Nat :=
  let start : UInt64 := 14695981039346656037
  let hash := ns.foldl (fun h n => (h ^^^ n.toUInt64) * 1099511628211) start
  hash.toNat % slots

/-- States that are known by what they do; a slot keeps the last state that fell on it. -/
abbrev Known := Std.HashMap Nat (List Nat × Nat)

/-- The state that does something, if its slot still has it. -/
def Known.state? (known : Known) (slot : Nat) (deed : List Nat) : Option Nat := do
  let (held, state) ← known[slot]?
  if held = deed then some state else none

/-- A machine that is growing, and the states that it can use again. -/
structure Sharing where
  growth : Growth
  known : Known := ∅

-- ---------------------------------------------------------------------------
-- Sets, read forward
-- ---------------------------------------------------------------------------

/-- The number of slots for states that are shared forward. -/
def forwardSlots : Nat := 10000

/-- A state that is not finished: its branches, and the range of its last one, which goes on. -/
structure Unfinished where
  /-- First byte, last byte and next state of each branch. -/
  branches : List Nat := []
  last : Option (Nat × Nat) := none

/-- The branches of a state once its last one leads to a state. -/
def Unfinished.branchesTo (u : Unfinished) (next : Nat) : List Nat :=
  match u.last with
  | some (low, high) => u.branches ++ [low, high, next]
  | none => u.branches

/-- A state with some branches, an old one if there is one. -/
def Sharing.state (s : Sharing) (branches : List Nat) : Nat × Sharing :=
  let place := slot forwardSlots branches
  match s.known.state? place branches with
  | some state => (state, s)
  | none =>
    let state := s.growth.states
    (state, ⟨s.growth.reader (branches.length / 3), s.known.insert place (branches, state)⟩)

/-- Finishes states that follow each other, the last of which leads to `target`. -/
def Sharing.finish (s : Sharing) (target : Nat) : List Unfinished → Nat × Sharing
  | [] => (target, s)
  | u :: us =>
    let (next, s) := s.finish target us
    s.state (u.branchesTo next)

/-- Adds a row of byte ranges to the states of the row before it. -/
def Sharing.addRow (s : Sharing) (target : Nat) :
    List Unfinished → List (Nat × Nat) → List Unfinished × Sharing
  | u :: us, r :: row =>
    if u.last = some r then
      let (us, s) := s.addRow target us row
      (u :: us, s)
    else
      let (next, s) := s.finish target us
      (⟨u.branchesTo next, some r⟩ :: row.map fun r => ⟨[], some r⟩, s)
  | _, row => (row.map fun r => ⟨[], some r⟩, s)

/-- A machine with the states of the byte rows of a set, read forward. -/
def Growth.forwardRows (g : Growth) (rows : List (List (Nat × Nat))) : Growth :=
  let target := g.states
  let step (state : List Unfinished × Sharing) (row : List (Nat × Nat)) :=
    state.2.addRow target state.1 row
  let (us, s) := rows.foldl step ([{}], ⟨g.plain 1, ∅⟩)
  (s.finish target us).2.growth

-- ---------------------------------------------------------------------------
-- Sets, read backward
-- ---------------------------------------------------------------------------

/-- The number of slots for states that are shared backward. -/
def backwardSlots : Nat := 1000

/-- A state that reads a byte range and leads to another, an old one if there is one. -/
def Sharing.before (s : Sharing) (next : Nat) (r : Nat × Nat) : Nat × Sharing :=
  let deed := [next, r.1, r.2]
  let place := slot backwardSlots deed
  match s.known.state? place deed with
  | some state => (state, s)
  | none =>
    let state := s.growth.states
    (state, ⟨s.growth.plain 1, s.known.insert place (deed, state)⟩)

/-- The states of a row of byte ranges, of which the first is read last. -/
def Sharing.addBackward (s : Sharing) (next : Nat) : List (Nat × Nat) → Sharing
  | [] => s
  | r :: row =>
    let (state, s) := s.before next r
    s.addBackward state row

/-- A machine with the states of the byte rows of a set, read backward. -/
def Growth.backwardRows (g : Growth) (rows : List (List (Nat × Nat))) : Growth :=
  let target := g.states + 1
  let start : Sharing := ⟨(g.fork rows.length).plain 1, ∅⟩
  (rows.foldl (fun s row => s.addBackward target row) start).growth

-- ---------------------------------------------------------------------------
-- Literals to choose from
-- ---------------------------------------------------------------------------

/-- Adds a literal to the literals with the same first byte. -/
def addToFan (fan : List (Nat × List (List Nat))) (first : Nat) (rest : List Nat) :
    List (Nat × List (List Nat)) :=
  match fan with
  | [] => [(first, [rest])]
  | (byte, rests) :: more =>
    if byte = first then (byte, rests ++ [rest]) :: more
    else (byte, rests) :: addToFan more first rest

/--
Literals by their first bytes, in groups that literals without any more bytes
divide. The latest group comes first.
-/
def fans (literals : List (List Nat)) : List (List (Nat × List (List Nat))) :=
  literals.foldl (fun groups l =>
    match l, groups with
    | [], groups => if groups.flatten.isEmpty ∧ 1 < groups.length then groups else [] :: groups
    | byte :: rest, fan :: more => addToFan fan byte rest :: more
    | byte :: rest, [] => [[(byte, [rest])]]) [[]]

/-- A machine with the states for the ends of literals, which are at most `length` bytes long. -/
def Growth.ends (length : Nat) (g : Growth) (literals : List (List Nat)) : Growth :=
  let groups := fans literals
  match length with
  | 0 => g
  | length + 1 =>
    if groups.flatten.isEmpty then g
    else
      let filled := groups.filter fun fan => !fan.isEmpty
      let g := filled.foldl (fun g fan =>
        (fan.foldl (fun g entry => g.ends length entry.2) g).reader
          (if fan.length = 1 then 0 else fan.length)) g
      g.fork (filled.length + (groups.length - 1))

/-- A machine with the states of literals to choose from. -/
def Growth.literals (g : Growth) (literals : List (List Nat)) : Growth :=
  let longest := (literals.map List.length).foldl max 0
  (g.plain 1).ends longest literals

-- ---------------------------------------------------------------------------
-- Shapes
-- ---------------------------------------------------------------------------

/-- The bytes of a literal, by code points. -/
def Shape.bytes? : Shape → Option (List Nat)
  | .literal codes => some (codes.flatMap encoded)
  | _ => none

/-- A machine with the states of a set. -/
def Growth.set (backward : Bool) (g : Growth) (s : CharSet) : Growth :=
  if s.isAscii then (g.plain 1).reader s.ranges.length
  else if backward then g.backwardRows (byteRows s)
  else g.forwardRows (byteRows s)

mutual
/-- A machine with the states of a shape. -/
def Shape.grow (backward : Bool) : Shape → Growth → Growth
  | .empty, g | .place _, g => g.plain 1
  | .literal codes, g => g.plain (codes.map Shape.byteCount).sum
  | .set s, g => g.set backward s
  | .capture _ b, g =>
    if backward then b.grow backward g else (b.grow backward (g.plain 1)).plain 1
  | .repeated b least most _, g =>
    let copies (n : Nat) (g : Growth) : Growth :=
      if n = 0 then g.plain 1 else g.times (b.grow backward) n
    match least, most with
    | 0, some 1 => (b.grow backward (g.fork 2)).plain 1
    | 0, none =>
      if b.least?.any (0 < ·) then b.grow backward (g.fork 2)
      else (((b.grow backward g).fork 2).fork 2).plain 1
    | n, none => (copies n g).fork 2
    | n, some m =>
      if n = m then copies n g
      else ((copies n g).plain 1).times (fun g => b.grow backward (g.fork 2)) (m - n)
  | .rowOf ps, g => Shape.growRow backward ps g
  | .choiceOf ps, g =>
    match ps.mapM Shape.bytes? with
    | some literals => g.literals (if backward then literals.map List.reverse else literals)
    | none => Shape.growChoice backward 0 ps g

/-- A machine with the states of shapes in a row. -/
def Shape.growRow (backward : Bool) : List Shape → Growth → Growth
  | [], g => g
  | p :: ps, g =>
    if backward then p.grow backward (Shape.growRow backward ps g)
    else Shape.growRow backward ps (p.grow backward g)

/-- A machine with the states of shapes to choose from, whose fork stands behind the second. -/
def Shape.growChoice (backward : Bool) (before : Nat) : List Shape → Growth → Growth
  | [], g => g
  | p :: ps, g =>
    let g := p.grow backward g
    let g := if before = 1 then (g.fork (ps.length + 2)).plain 1 else g
    Shape.growChoice backward (before + 1) ps g
end

-- ---------------------------------------------------------------------------
-- Machines
-- ---------------------------------------------------------------------------

/-- Some part holds a condition before any part that can match more than nothing. -/
def anyUntilFilled (ps : List (Bool × Option Nat)) : Bool :=
  match ps with
  | [] => false
  | (holds, most) :: ps => holds || (most = some 0 && anyUntilFilled ps)

mutual
/-- Every match begins at the start of the text, or ends at its end if `backward`. -/
def Shape.isAnchored (backward : Bool) : Shape → Bool
  | .place p => if backward then p = .textEnd else p = .textStart
  | .capture _ b => b.isAnchored backward
  | .repeated b least _ _ => 0 < least && b.isAnchored backward
  | .rowOf ps =>
    let parts := Shape.anchors backward ps
    anyUntilFilled (if backward then parts.reverse else parts)
  | .choiceOf ps => (Shape.anchors backward ps).all (·.1)
  | _ => false

/-- Whether shapes are anchored, with the lengths of their longest matches. -/
def Shape.anchors (backward : Bool) : List Shape → List (Bool × Option Nat)
  | [] => []
  | p :: ps => (p.isAnchored backward, p.most?) :: Shape.anchors backward ps
end

/--
The room for the machine of a shape. Unless the shape is anchored, a loop over
any byte stands in front; forward, the whole match is caught like a group.
-/
def Shape.room (backward : Bool) (p : Shape) : Nat :=
  let start : Growth := {}
  let start := if p.isAnchored backward then start.plain 1 else ((start.fork 2).plain 1).reader 1
  let body := if backward then p.grow backward start else (p.grow backward (start.plain 1)).plain 1
  (body.plain 1).room

/-- There is enough room for the machines of a tree. -/
def Tree.fits (t : Tree) : Bool :=
  let p := t.shape
  p.room false ≤ maxRoom && p.room true ≤ maxRoom

end Errand.Pattern
