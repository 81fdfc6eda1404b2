import Errand.Template.Evaluate
import Errand.Template.Grammar

/-!
# Errand — rendering a template

A template is rendered under a scope of named values. Names that are not in
scope are undefined, which prints as nothing; what makes no sense fails the
rendering as a whole. Loops, scopes, blocks and routines have names of their
own; conditions, captures and filtered bodies have not.

* `Node.run`      — the text of a node.
* `isWellFormed`  — a template can be read.
* `render?`       — the text of a template under a scope.
-/

namespace Errand.Template

-- ---------------------------------------------------------------------------
-- Loops
-- ---------------------------------------------------------------------------

/-- The turns of a loop over some items, one text after the other. -/
def turns (id : Nat) (each : Value → Eval String) (before : Value) (text : String) :
    List Value → Eval String
  | [] => do
    modify fun s => { s with turns := s.turns.modify id fun t => { t with index := t.index + 1 } }
    pure text
  | v :: rest => do
    modify fun s =>
      { s with turns := s.turns.modify id fun t =>
          { t with index := t.index + 1, before := before, after := rest.headD .undefined } }
    let here ← each v
    turns id each v (text ++ here) rest

/-- A loop in a frame of its own. -/
def runLoop (visible : Bool) (again : Option (Target × List Node)) (sized : Bool)
    (items : List Value) (each : Value → Eval String) : Eval String := do
  let s ← get
  let length := if sized then some items.length else none
  let id ← Eval.newTurn { index := 0, length := length, depth := s.nextDepth }
  Eval.within { loop := some ⟨id, visible, again⟩ } do
    match items with
    | [] => pure ""
    | v :: rest =>
      modify fun s =>
        { s with turns := s.turns.modify id fun t => { t with after := rest.headD .undefined } }
      let here ← each v
      turns id each v here rest

/-- The items of which a condition holds. -/
def keepItems (holds : Value → Eval Bool) : List Value → Eval (List Value)
  | [] => pure []
  | v :: rest => do
    let kept ← holds v
    let more ← keepItems holds rest
    pure (if kept then v :: more else more)

-- ---------------------------------------------------------------------------
-- Statements
-- ---------------------------------------------------------------------------

/-- Whether text is escaped from now on, by the value that says so. -/
def escapingMode? : Value → Option Bool
  | .text "html" _ => some true
  | .text "none" _ => some false
  | .text _ _ => none
  | v => some (Value.equal v (.truth true))

/-- Another template cannot be found; its names have to be texts. -/
def includeNothing (v : Value) (mayMiss : Bool) : Option String :=
  let names := match v.kind with
    | .list | .series | .record => v.items?.getD []
    | .plain => []
    | _ => [v]
  if names.any fun n => n.kind != .text then none
  else if names.isEmpty ∨ mayMiss then some ""
  else none

/-- A routine that keeps the names which it takes from its surroundings. -/
def newRoutine (name : String) (parameters : List Parameter) (body : List Node) : Eval Value := do
  let free := freeNames parameters body
  modify fun s => (free.filter (· ≠ "caller")).foldl Scene.keep s
  let s ← get
  let kept := (s.frames.head?).bind Frame.kept
  let r : Routine := ⟨name, parameters, body, free.contains "caller", kept⟩
  set { s with routines := s.routines.push r }
  pure (r.value s.routines.size)

/-- The bindings of a scope statement, each seeing those before it. -/
def bindAll (invoke : Call → Eval Value) : List (Target × Expr) → Eval Unit
  | [] => pure ()
  | (t, e) :: rest => do
    let v ← e.eval invoke none
    t.assign invoke v
    bindAll invoke rest

mutual
/-- The text of a node. -/
def Node.run (invoke : Call → Eval Value) : Node → Eval String
  | .text s => pure s
  | .output e => do
    let v ← e.eval invoke none
    Eval.shown v
  | .assign t e => do
    let v ← e.eval invoke none
    t.assign invoke v
    pure ""
  | .capture t filters body => do
    let text ← runAll invoke body
    let v ← Eval.captured text
    let v ← applyFilters invoke v filters
    t.assign invoke v
    pure ""
  | .branch condition yes no => do
    let v ← condition.eval invoke none
    if v.isTrue then runAll invoke yes else runAll invoke no
  | .loop t items keep recursive body otherwise => do
    let v ← items.eval invoke none
    let all ← (v.items? : Option _)
    let each := fun item => do
      t.assign invoke item
      runAll invoke body
    let kept ← match keep with
      | none => pure all
      | some condition => do
        let s ← get
        let id ← Eval.newTurn { index := 0, length := none, depth := s.nextDepth }
        Eval.within { loop := some ⟨id, false, none⟩ } (keepItems (fun item => do
          t.assign invoke item
          let c ← condition.eval invoke none
          pure c.isTrue) all)
    let again := if recursive then some (t, body) else none
    let text ← runLoop true again (v.isSized || keep.isSome) kept each
    if kept.isEmpty then runAll invoke otherwise else pure text
  | .scope bindings body =>
    Eval.within {} do
      bindAll invoke bindings
      runAll invoke body
  | .escaping mode body => do
    let v ← mode.eval invoke none
    let escaping ← (escapingMode? v : Option _)
    let s ← get
    set { s with escaping := escaping }
    let text ← runAll invoke body
    modify fun inner => { inner with escaping := s.escaping }
    pure text
  | .filtered filters body => do
    let text ← runAll invoke body
    let v ← Eval.captured text
    let v ← applyFilters invoke v filters
    Eval.shown v
  | .block _ body => Eval.within {} (runAll invoke body)
  | .inclusion name mayMiss => do
    let v ← name.eval invoke none
    includeNothing v mayMiss
  | .elsewhere => failure
  | .routine name parameters body => do
    let v ← newRoutine name parameters body
    modify (Scene.store name v)
    pure ""
  | .callWith call parameters body => do
    let caller ← newRoutine "caller" parameters body
    let v ← call.eval invoke (some caller)
    Eval.shown v
  | .perform call => do
    let _ ← call.eval invoke none
    pure ""

/-- The text of some nodes in order. -/
def runAll (invoke : Call → Eval Value) : List Node → Eval String
  | [] => pure ""
  | n :: rest => do
    let here ← n.run invoke
    let more ← runAll invoke rest
    pure (here ++ more)
end

-- ---------------------------------------------------------------------------
-- Calls
-- ---------------------------------------------------------------------------

/-- The value of each parameter, undefined if none is given, if all arguments have one. -/
def parameterValues (r : Routine) (a : Arguments) : Option (List Value) := do
  if r.parameters.length < a.placed.length then none
  let names := r.parameters.map Parameter.name
  let allowed := if r.hasCaller then "caller" :: names else names
  if !a.onlyNamed allowed then none
  names.zipIdx.mapM fun (name, i) =>
    match a.placed[i]?, Value.memberNamed? name a.named with
    | some _, some _ => none
    | some v, none => some v
    | none, some v => some v
    | none, none => some .undefined

/-- The parameters of a routine with their values, the last one first. -/
def bindParameters (invoke : Call → Eval Value) : List (Parameter × Value) → Eval Unit
  | [] => pure ()
  | (p, v) :: rest => do
    let v ← match v, p.default with
      | .undefined, some e => e.eval invoke none
      | v, _ => pure v
    modify (Scene.store p.name v)
    bindParameters invoke rest

/-- A routine applied to its arguments, which sees what it has kept and the given names. -/
def runRoutine (invoke : Call → Eval Value) (r : Routine) (args : List Value) : Eval Value := do
  let a := Arguments.ofList args
  let vs ← (parameterValues r a : Option _)
  let s ← get
  let kept := (r.kept.bind fun id => s.keeps[id]?).getD []
  let own : Names := if r.hasCaller then
      [("caller", (Value.memberNamed? "caller" a.named).getD .undefined)]
    else []
  let frames := [{ names := own }, { names := kept }, (s.frames.getLast?).getD {}]
  set { s with frames := frames, outer := s.depth + Scene.routineCost, blocks := [] }
  Eval.checkDepth
  bindParameters invoke (r.parameters.zip vs).reverse
  let text ← runAll invoke r.body
  modify fun inner => { inner with frames := s.frames, outer := s.outer, blocks := s.blocks }
  Eval.captured text

/-- What a call makes of the part of the template that it runs. -/
def runCall (invoke : Call → Eval Value) : Call → Eval Value
  | .routine id args => do
    let s ← get
    let r ← s.routines[id]?
    runRoutine invoke r args
  | .block name => do
    let s ← get
    let (_, body) ← s.blocks.find? fun entry => entry.1 = name
    let text ← Eval.within {} (runAll invoke body)
    Eval.captured text
  | .again v => do
    let s ← get
    let (t, body) ← s.innermostLoop.bind LoopFrame.again
    let items ← (v.items? : Option _)
    let text ← runLoop true (some (t, body)) v.isSized items fun item => do
      t.assign invoke item
      runAll invoke body
    Eval.captured text

/-- A call at so many levels of calls at most, of which frames allow fewer anyway. -/
def invokeTo : Nat → Call → Eval Value
  | 0, _ => failure
  | depth + 1, call => runCall (invokeTo depth) call

/-- A call. -/
def invoke : Call → Eval Value := invokeTo (Scene.maxDepth + 2)

-- ---------------------------------------------------------------------------
-- Templates
-- ---------------------------------------------------------------------------

/-- The template is well formed. -/
def isWellFormed (source : String) : Bool := (read? source).isSome

/-- The state that a rendering starts in: nothing but the given names. -/
def Scene.start (given : Names) (nodes : List Node) : Scene :=
  { frames := [{}, { names := given }], blocks := blocksOf nodes }

/-- The text of a template under a scope, if it is well formed and makes sense. -/
def render? (source : String) (given : Names) : Option String := do
  let nodes ← read? source
  let (text, _) ← (runAll invoke nodes).run (Scene.start given nodes)
  some text

end Errand.Template
