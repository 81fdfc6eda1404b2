import Mathlib
import Errand.Template.Render

/-!
# Errand — templates of text and holes

The templates that use nothing of the language but the two names of a reply: text without
braces, and holes. Such a template is read one character at a time, so it is taken apart into
marks, each a character or a hole; every reader then has one step for each kind of mark, and
what is read is the same however the text is divided into pieces. No step looks at the values,
so nothing in them is ever read.

* `Segment`        — a piece of text or a hole, as it is written and as it is filled.
* `Mark`           — a character or a hole.
* `pieces_marks`   — a template is cut at its holes and nowhere else.
* `read?_marks`    — the nodes that it is read as.
* `run_segments`   — these nodes put out the text with the holes filled.
* `exists_return`  — a carriage return at the end of a template is text.
* `render?_marks`  — a template is rendered by filling its holes.
-/

namespace Errand.Template

-- ---------------------------------------------------------------------------
-- Templates of text and holes
-- ---------------------------------------------------------------------------

/-- A place in a template that a value is put into. -/
inductive Hole where
  | status
  | summary

/-- The name that stands in a hole. -/
def Hole.name : Hole → String
  | .status => "status"
  | .summary => "summary"

/-- What is put into a hole. -/
def Hole.filled (status summary : String) : Hole → String
  | .status => status
  | .summary => summary

/-- A piece of text, or a hole. -/
inductive Segment where
  | literal (s : String)
  | hole (h : Hole)

/-- A segment as it is written. -/
def Segment.source : Segment → String
  | .literal s => s
  | .hole h => "\x7b\x7b " ++ h.name ++ " \x7d\x7d"

/-- A segment whose hole is filled. -/
def Segment.filled (status summary : String) : Segment → String
  | .literal s => s
  | .hole h => h.filled status summary

/-- A piece of text has no braces. -/
def Segment.Plain : Segment → Prop
  | .literal s => '\x7b' ∉ s.toList ∧ '\x7d' ∉ s.toList
  | .hole _ => True

/-- A template as it is written. -/
def sourceOf (segments : List Segment) : String := String.join (segments.map Segment.source)

/-- A template whose holes are filled, all else as it is. -/
def filledIn (status summary : String) (segments : List Segment) : String :=
  String.join (segments.map (Segment.filled status summary))

theorem filledIn_cons (status summary : String) (g : Segment) (rest : List Segment) :
    filledIn status summary (g :: rest) =
      g.filled status summary ++ filledIn status summary rest := by
  simp [filledIn]

theorem filledIn_append (status summary : String) (front back : List Segment) :
    filledIn status summary (front ++ back) =
      filledIn status summary front ++ filledIn status summary back := by
  simp [filledIn]

-- ---------------------------------------------------------------------------
-- Character by character
-- ---------------------------------------------------------------------------

/-- A character of a template that is text, or a hole. -/
inductive Mark where
  | char (c : Char)
  | hole (h : Hole)

/-- A mark as it is written. -/
def Mark.source : Mark → List Char
  | .char c => [c]
  | .hole h => '\x7b' :: '\x7b' :: ' ' :: (h.name.toList ++ [' ', '\x7d', '\x7d'])

/-- A mark whose hole is filled. -/
def Mark.filled (status summary : String) : Mark → List Char
  | .char c => [c]
  | .hole h => (h.filled status summary).toList

/-- The characters of a segment, or its hole. -/
def Segment.marks : Segment → List Mark
  | .literal s => s.toList.map .char
  | .hole h => [.hole h]

theorem Mark.length_source (mark : Mark) : 0 < mark.source.length := by
  cases mark <;> simp [source]

/-- No character that is text opens a tag. -/
def Tagless (marks : List Mark) : Prop := ∀ c, .char c ∈ marks → c ≠ '\x7b'

theorem Tagless.tail {mark : Mark} {rest : List Mark} (h : Tagless (mark :: rest)) :
    Tagless rest := fun c hc => h c (.tail mark hc)

theorem Tagless.front {front back : List Mark} (h : Tagless (front ++ back)) : Tagless front :=
  fun c hc => h c (List.mem_append_left back hc)

theorem Segment.Plain.tagless {segments : List Segment} (h : ∀ g ∈ segments, g.Plain) :
    Tagless (segments.flatMap Segment.marks) := by
  intro c hc hBrace
  obtain ⟨g, hg, hMark⟩ := List.mem_flatMap.mp hc
  cases g with
  | literal s =>
    obtain ⟨d, hd, hEq⟩ := List.mem_map.mp hMark
    cases hEq
    exact (h _ hg).1 (hBrace ▸ hd)
  | hole h => simp [marks] at hMark

theorem toList_sourceOf (segments : List Segment) :
    (sourceOf segments).toList = (segments.flatMap Segment.marks).flatMap Mark.source := by
  rw [sourceOf, String.toList_join, List.flatMap_map, List.flatMap_assoc]
  refine List.flatMap_congr fun g _ => ?_
  cases g with
  | literal s => simp [Segment.source, Segment.marks, Mark.source, List.flatMap_map]
  | hole h => simp [Segment.source, Segment.marks, Mark.source]

theorem toList_filledIn (status summary : String) (segments : List Segment) :
    (filledIn status summary segments).toList =
      (segments.flatMap Segment.marks).flatMap (Mark.filled status summary) := by
  rw [filledIn, String.toList_join, List.flatMap_map, List.flatMap_assoc]
  refine List.flatMap_congr fun g _ => ?_
  cases g with
  | literal s => simp [Segment.filled, Segment.marks, Mark.filled, List.flatMap_map]
  | hole h => simp [Segment.filled, Segment.marks, Mark.filled]

-- ---------------------------------------------------------------------------
-- Pieces
-- ---------------------------------------------------------------------------

/-- The text since the last tag as a segment; empty text has none. -/
def flushed (read : List Char) : List Segment :=
  if read.isEmpty then [] else [.literal (String.ofList read.reverse)]

/-- The segments that marks are read as, where neighbouring characters are one text. -/
def joined (read : List Char) : List Mark → List Segment
  | [] => flushed read
  | .char c :: rest => joined (c :: read) rest
  | .hole h :: rest => flushed read ++ .hole h :: joined [] rest

/-- The piece that a segment is read as. -/
def Segment.piece : Segment → Piece
  | .literal s => .text s
  | .hole h => .output [.name h.name]

theorem pieces_char {c : Char} (h : c ≠ '\x7b') (fuel : Nat) (swallow : Bool)
    (read rest : List Char) :
    pieces (fuel + 1) swallow read (c :: rest) = pieces fuel swallow (c :: read) rest := by
  rw [pieces] <;> simp [h]

theorem tagTokens_hole (h : Hole) {fuel : Nat} (hFuel : 2 ≤ fuel) (rest : List Char) :
    tagTokens fuel 0 ['\x7d', '\x7d'] []
      (' ' :: (h.name.toList ++ ' ' :: '\x7d' :: '\x7d' :: rest)) =
      some ([.name h.name], false, rest) := by
  obtain ⟨fuel, rfl⟩ := Nat.exists_eq_add_of_le' hFuel
  cases h with
  | status => rfl
  | summary => rfl

theorem textPiece_eq (read : List Char) :
    textPiece false false read = (flushed read).map Segment.piece := by
  cases read <;> simp [textPiece, flushed, Segment.piece]

theorem openingSign_hole (rest : List Char) :
    openingSign (' ' :: rest) = (false, ' ' :: rest) := rfl

/-- A hole is a step of its own: what was text before it is put away, and nothing is swallowed. -/
theorem pieces_hole (h : Hole) (fuel : Nat) (read rest : List Char) :
    pieces (fuel + 1) false read ((Mark.hole h).source ++ rest) =
      (pieces fuel false [] rest).map fun more =>
        (flushed read).map Segment.piece ++ (Segment.hole h).piece :: more := by
  simp only [Mark.source, List.cons_append, List.append_assoc, List.nil_append]
  rw [pieces]
  dsimp only [openingSign_hole]
  rw [tagTokens_hole h (by simp), textPiece_eq]
  rfl

/-- A template of text and holes is cut at its holes, whatever text there is. -/
theorem pieces_marks {marks : List Mark} (hMarks : Tagless marks) {fuel : Nat} {read : List Char}
    (hFuel : (marks.flatMap Mark.source).length < fuel) :
    pieces fuel false read (marks.flatMap Mark.source) =
      some ((joined read marks).map Segment.piece) := by
  -- Characters are gathered in front of the marks, so the text read so far varies; a mark takes
  -- one step but at least one character, which the length pays for.
  induction marks generalizing fuel read with
  | nil =>
    obtain ⟨fuel, rfl⟩ := Nat.exists_eq_add_of_lt hFuel
    simp [pieces, joined, textPiece_eq]
  | cons mark rest ih =>
    obtain ⟨fuel, rfl⟩ : ∃ n, fuel = n + 1 := ⟨fuel - 1, by omega⟩
    rw [List.flatMap_cons] at hFuel ⊢
    have hRest : (rest.flatMap Mark.source).length < fuel := by
      have hMark := mark.length_source
      rw [List.length_append] at hFuel
      omega
    cases mark with
    | char c => exact (pieces_char (hMarks c (.head rest)) ..).trans (ih hMarks.tail hRest)
    | hole h =>
      rw [pieces_hole, ih hMarks.tail hRest]
      simp [joined]

-- ---------------------------------------------------------------------------
-- Nodes
-- ---------------------------------------------------------------------------

/-- The node that a segment is read as. -/
def Segment.node : Segment → Node
  | .literal s => .text s
  | .hole h => .output (.var h.name)

theorem read?_hole (h : Hole) : Expr.read? maxNesting [.name h.name] = some (.var h.name) := by
  cases h with
  | status => cbv
  | summary => cbv

/-- The pieces of a template of text and holes are its nodes, one for one. -/
theorem block_segments (segments : List Segment) {fuel : Nat} {read : List Node}
    (hFuel : segments.length < fuel) :
    block fuel maxNesting false read (segments.map Segment.piece) =
      some (read.reverse ++ segments.map Segment.node, [], []) := by
  induction segments generalizing fuel read with
  | nil =>
    obtain ⟨fuel, rfl⟩ : ∃ n, fuel = n + 1 := ⟨fuel - 1, by omega⟩
    simp [block]
  | cons g rest ih =>
    obtain ⟨fuel, rfl⟩ : ∃ n, fuel = n + 1 := ⟨fuel - 1, by omega⟩
    have hRest : rest.length < fuel := by simpa using hFuel
    cases g with
    | literal s => simp [block, Segment.piece, Segment.node, ih hRest]
    | hole h => simp [block, Segment.piece, Segment.node, read?_hole, ih hRest]

theorem blocksOf_segments (segments : List Segment) :
    blocksOf (segments.map Segment.node) = [] := by
  induction segments with
  | nil => rfl
  | cons g rest ih =>
    cases g with
    | literal s => simpa [blocksOf, Node.blocks, Segment.node] using ih
    | hole h => simpa [blocksOf, Node.blocks, Segment.node] using ih

/-- A template of text and holes is well formed. -/
theorem read?_marks {template : String} {marks : List Mark} (hMarks : Tagless marks)
    (hTemplate : dropFinalNewline template.toList = marks.flatMap Mark.source) :
    read? template = some ((joined [] marks).map Segment.node) := by
  have hPieces : Piece.ofText? template = some ((joined [] marks).map Segment.piece) := by
    rw [Piece.ofText?, hTemplate]
    exact pieces_marks hMarks (Nat.lt_succ_self _)
  have hFuel : (joined [] marks).length < 3 * (joined [] marks).length + 3 := by omega
  simp [read?, hPieces, block_segments _ hFuel, blocksOf_segments]

-- ---------------------------------------------------------------------------
-- The end of a template
-- ---------------------------------------------------------------------------

theorem dropFinalNewline_of_ne {cs : List Char} (hLine : cs.getLast? ≠ some '\n')
    (hReturn : cs.getLast? ≠ some '\r') : dropFinalNewline cs = cs := by
  rcases List.eq_nil_or_concat cs with rfl | ⟨init, c, rfl⟩
  · rfl
  · rw [List.concat_eq_append, List.getLast?_concat, ne_eq, Option.some_inj] at hLine hReturn
    simp [dropFinalNewline, hLine, hReturn]

theorem dropFinalNewline_return (cs : List Char) : dropFinalNewline (cs ++ ['\r']) = cs := by
  simp [dropFinalNewline]

/-- A template that ends in a carriage return ends in one that is text. -/
theorem exists_return {marks : List Mark}
    (h : (marks.flatMap Mark.source).getLast? = some '\r') :
    ∃ init, marks = init ++ [.char '\r'] := by
  rcases List.eq_nil_or_concat marks with rfl | ⟨init, mark, rfl⟩
  · simp at h
  · rw [List.concat_eq_append, List.flatMap_append, List.flatMap_singleton] at h
    rw [List.getLast?_append_of_ne_nil _ (List.ne_nil_of_length_pos mark.length_source)] at h
    cases mark with
    | char c =>
      obtain rfl : c = '\r' := Option.some.inj h
      exact ⟨init, List.concat_eq_append⟩
    | hole hole =>
      have hBrace : (Mark.hole hole).source.getLast? = some '\x7d' := by cases hole <;> rfl
      rw [hBrace] at h
      exact absurd h (by decide)

-- ---------------------------------------------------------------------------
-- Running
-- ---------------------------------------------------------------------------

/-- The names that a reply is made with. -/
abbrev replyNames (status summary : String) : Names :=
  [("status", .ofText status), ("summary", .ofText summary)]

theorem lookup_hole (status summary : String) (h : Hole) :
    (Scene.start (replyNames status summary) []).lookup h.name =
      some (.ofText (h.filled status summary)) := by
  cases h with
  | status => rfl
  | summary => rfl

/-- A node puts out its segment with the hole filled, and leaves the scene as it was. -/
theorem run_segment (invoke : Call → Eval Value) (status summary : String) (g : Segment) :
    (g.node.run invoke).run (Scene.start (replyNames status summary) []) =
      some (g.filled status summary, Scene.start (replyNames status summary) []) := by
  cases g with
  | literal s => simp [Segment.node, Segment.filled, Node.run]
  | hole h =>
    have hEscaping : (Scene.start (replyNames status summary) []).escaping = false := rfl
    simp [Segment.node, Segment.filled, Node.run, Expr.eval, lookup_hole, Eval.shown, hEscaping,
      Value.ofText, Value.print]

/-- Nodes put out the text with the holes filled. -/
theorem run_segments (invoke : Call → Eval Value) (status summary : String)
    (segments : List Segment) :
    (runAll invoke (segments.map Segment.node)).run (Scene.start (replyNames status summary) []) =
      some (filledIn status summary segments, Scene.start (replyNames status summary) []) := by
  induction segments with
  | nil => rfl
  | cons g rest ih => simp [runAll, run_segment, ih, filledIn_cons]

-- ---------------------------------------------------------------------------
-- Rendering
-- ---------------------------------------------------------------------------

theorem toList_filledIn_flushed (status summary : String) (read : List Char) :
    (filledIn status summary (flushed read)).toList = read.reverse := by
  cases read <;> simp [flushed, filledIn, Segment.filled]

/-- Joining characters to texts changes nothing about what is put out. -/
theorem toList_filledIn_joined (status summary : String) (read : List Char) (marks : List Mark) :
    (filledIn status summary (joined read marks)).toList =
      read.reverse ++ marks.flatMap (Mark.filled status summary) := by
  induction marks generalizing read with
  | nil => simp [joined, toList_filledIn_flushed]
  | cons mark rest ih =>
    cases mark with
    | char c => simp [joined, ih, Mark.filled]
    | hole h =>
      rw [joined, filledIn_append, String.toList_append, toList_filledIn_flushed, filledIn_cons,
        String.toList_append, ih]
      simp [Mark.filled, Segment.filled]

/-- **A template of text and holes is rendered by filling its holes**, less what is dropped at its
end. -/
theorem render?_marks {template : String} {marks : List Mark} (hMarks : Tagless marks)
    (hTemplate : dropFinalNewline template.toList = marks.flatMap Mark.source)
    (status summary : String) :
    render? template (replyNames status summary) =
      some (String.ofList (marks.flatMap (Mark.filled status summary))) := by
  have hText : filledIn status summary (joined [] marks) =
      String.ofList (marks.flatMap (Mark.filled status summary)) := by
    rw [← String.toList_inj, toList_filledIn_joined, String.toList_ofList]
    rfl
  have hStart : Scene.start (replyNames status summary) ((joined [] marks).map Segment.node) =
      Scene.start (replyNames status summary) [] := by
    rw [Scene.start, blocksOf_segments]
    rfl
  simp [render?, read?_marks hMarks hTemplate, hStart, run_segments, hText]

end Errand.Template
