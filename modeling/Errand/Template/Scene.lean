import Errand.Template.Filter
import Errand.Template.FreeNames

/-!
# Errand — the state of a rendering

What statements see and change: frames of names, the innermost first, and the
objects that have been made so far, which values refer to by number. A loop
and a routine have frames of their own; so deep may they be nested and no
deeper.

* `Frame`, `Scene`    — names in scope, and everything that a rendering keeps.
* `Scene.lookup`      — the value of a name.
* `Scene.store`       — an assignment.
* `Scene.view`        — a value with the members that its objects have now.
* `Eval`              — a step of a rendering, which may fail.
-/

namespace Errand.Template

-- ---------------------------------------------------------------------------
-- Frames and objects
-- ---------------------------------------------------------------------------

/-- Values by name. -/
abbrev Names := List (String × Value)

/-- The value of a name. -/
def Names.find? (name : String) (names : Names) : Option Value :=
  (List.find? (fun entry => entry.1 = name) names).map Prod.snd

/-- Some names with one more value; a value that the name had gives way. -/
def Names.bind (name : String) (v : Value) : Names → Names
  | [] => [(name, v)]
  | (other, old) :: rest =>
    if other = name then (name, v) :: rest else (other, old) :: Names.bind name v rest

/-- A loop that is running: its number, whether it has a name, and what it runs if it may call
itself. -/
structure LoopFrame where
  id : Nat
  visible : Bool
  again : Option (Target × List Node)
  deriving Inhabited

/-- The names of one scope, the loop that it belongs to, and what routines in it keep. -/
structure Frame where
  names : Names := []
  loop : Option LoopFrame := none
  kept : Option Nat := none
  deriving Inhabited

/-- How far a loop has come. -/
structure Turn where
  index : Nat
  length : Option Nat
  depth : Nat
  before : Value := .undefined
  after : Value := .undefined
  marked : Option (List Value) := none
  deriving Inhabited

/-- What a routine does, and where it keeps the names of its surroundings. -/
structure Routine where
  name : String
  parameters : List Parameter
  body : List Node
  hasCaller : Bool
  kept : Option Nat
  deriving Inhabited

/-- Everything that a rendering keeps. -/
structure Scene where
  frames : List Frame
  outer : Nat := 0
  escaping : Bool := false
  blocks : List (String × List Node) := []
  spaces : Array (List (Value × Value)) := #[]
  turns : Array Turn := #[]
  routines : Array Routine := #[]
  keeps : Array Names := #[]
  deriving Inhabited

/-- A step of a rendering, which may fail. -/
abbrev Eval := StateT Scene Option

-- ---------------------------------------------------------------------------
-- Objects as values
-- ---------------------------------------------------------------------------

/-- The members of a loop. -/
def Turn.members (t : Turn) : List (Value × Value) :=
  let left (n : Nat) : Value := match t.length with
    | some length => .ofNat (length - t.index - n)
    | none => .undefined
  [("index0", .ofNat t.index), ("index", .ofNat (t.index + 1)),
   ("length", (t.length.map Value.ofNat).getD .undefined), ("revindex", left 0),
   ("revindex0", left 1), ("first", .truth (t.index = 0)),
   ("last", (t.length.map fun n => .truth (n = 0 || t.index = n - 1)).getD .undefined),
   ("depth", .ofNat (t.depth + 1)), ("depth0", .ofNat t.depth), ("previtem", t.before),
   ("nextitem", t.after)].map fun (name, v) => (.ofText name, v)

/-- The text of a loop. -/
def Turn.label (t : Turn) : String :=
  let length := (t.length.map fun n => "/" ++ toString n).getD ""
  "<loop " ++ toString t.index ++ length ++ ">"

/-- The members of a routine. -/
def Routine.members (r : Routine) : List (Value × Value) :=
  [(.ofText "name", .ofText r.name),
   (.ofText "arguments", .list (r.parameters.map fun p => .ofText p.name)),
   (.ofText "caller", .truth r.hasCaller)]

/-- A routine as a value. -/
def Routine.value (r : Routine) (id : Nat) : Value :=
  .object .routine id ("<macro " ++ r.name ++ ">") r.members

namespace Scene

/-- How deep the objects inside a value are looked up. -/
def viewDepth : Nat := 20

/-- A value with the members that its objects have now, so many levels deep. -/
def viewTo (s : Scene) (depth : Nat) (v : Value) : Value :=
  match depth with
  | 0 => v
  | depth + 1 =>
    let members (entries : List (Value × Value)) :=
      entries.map fun (key, w) => (key, s.viewTo depth w)
    match v with
    | .list items => .list (items.map (s.viewTo depth))
    | .series items sized => .series (items.map (s.viewTo depth)) sized
    | .record entries named => .record (members entries) named
    | .group key items => .group key (s.viewTo depth items)
    | .object .space id label _ => .object .space id label (members ((s.spaces[id]?).getD []))
    | .object .turn id label entries =>
      match s.turns[id]? with
      | some t => .object .turn id t.label (members t.members)
      | none => .object .turn id label entries
    | v => v

/-- A value with the members that its objects have now. -/
def view (s : Scene) (v : Value) : Value :=
  if s.spaces.isEmpty ∧ s.turns.isEmpty then v else s.viewTo viewDepth v

/-- The loop of a frame, if it has a name. -/
def loopValue (s : Scene) (f : Frame) : Option Value :=
  match f.loop with
  | some l => if l.visible then some (s.view (.object .turn l.id "" [])) else none
  | none => none

-- ---------------------------------------------------------------------------
-- Names
-- ---------------------------------------------------------------------------

/-- The functions that are there from the start. -/
def functionNames : List String := ["range", "dict", "namespace", "debug"]

/-- The value of a name in some frames. -/
def lookupIn (s : Scene) (name : String) : List Frame → Option Value
  | [] => none
  | f :: rest =>
    match f.names.find? name with
    | some v => some (s.view v)
    | none =>
      match if name = "loop" then s.loopValue f else none with
      | some v => some v
      | none => lookupIn s name rest

/-- The value of a name, if it has one. -/
def lookup (s : Scene) (name : String) : Option Value :=
  match s.lookupIn name s.frames with
  | some v => some v
  | none => if functionNames.contains name then some (.function name) else none

/-- The scene with a value under a name in the innermost frame and in what its routines keep. -/
def store (name : String) (v : Value) (s : Scene) : Scene :=
  match s.frames with
  | [] => s
  | f :: rest =>
    let keeps := match f.kept with
      | some id => s.keeps.modify id (Names.bind name v)
      | none => s.keeps
    { s with frames := { f with names := f.names.bind name v } :: rest, keeps := keeps }

/-- The scene in which the innermost frame keeps a name for its routines, and where. -/
def keep (s : Scene) (name : String) : Scene :=
  match s.frames with
  | [] => s
  | f :: rest =>
    let (id, keeps) := match f.kept with
      | some id => (id, s.keeps)
      | none => (s.keeps.size, s.keeps.push [])
    let v := (s.lookup name).getD .undefined
    let add (names : Names) := if (names.find? name).isSome then names else names.bind name v
    { s with frames := { f with kept := some id } :: rest, keeps := keeps.modify id add }

/-- The innermost loop. -/
def innermostLoop (s : Scene) : Option LoopFrame := s.frames.findSome? Frame.loop

/-- The depth of a loop that starts now. -/
def nextDepth (s : Scene) : Nat :=
  match s.innermostLoop with
  | some l => if l.again.isSome then ((s.turns[l.id]?).map fun t => t.depth + 1).getD 0 else 0
  | none => 0

-- ---------------------------------------------------------------------------
-- Depth
-- ---------------------------------------------------------------------------

/-- How deep frames may be nested. -/
def maxDepth : Nat := 500

/-- What a call of a routine costs besides its frames. -/
def routineCost : Nat := 4

/-- How deep frames are nested; the names that are given stand in a frame below all. -/
def depth (s : Scene) : Nat := s.outer + (s.frames.length - 1)

end Scene

-- ---------------------------------------------------------------------------
-- Steps
-- ---------------------------------------------------------------------------

namespace Eval

/-- Fails if frames are nested too deep. -/
def checkDepth : Eval Unit := do
  let s ← get
  if Scene.maxDepth < s.depth then failure

/-- A step inside a frame of its own. -/
def within {α : Type} (f : Frame) (step : Eval α) : Eval α := do
  checkDepth
  modify fun s => { s with frames := f :: s.frames }
  let result ← step
  modify fun s => { s with frames := s.frames.tail }
  pure result

/-- A new space of names with some members. -/
def newSpace (members : List (Value × Value)) : Eval Value := do
  let s ← get
  set { s with spaces := s.spaces.push members }
  pure (.object .space s.spaces.size "" members)

/-- A new loop. -/
def newTurn (t : Turn) : Eval Nat := do
  let s ← get
  set { s with turns := s.turns.push t }
  pure s.turns.size

/-- The text of a value as it is put out. -/
def shown (v : Value) : Eval String := do
  let s ← get
  pure (if s.escaping then v.printEscaped else v.print)

/-- A text that has been put together from parts that were put out. -/
def captured (text : String) : Eval Value := do
  let s ← get
  pure (.text text s.escaping)

end Eval

end Errand.Template
