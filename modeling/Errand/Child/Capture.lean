import Errand.Text.Utf8

/-!
# Errand — capturing a stream

The output of a child process arrives in pieces of any size. Its first bytes
up to a limit are kept, the rest is counted and dropped, and the stream is
read to its end either way.

* `Capture.ofChunks`  — the stream read piece by piece.
* `Capture.ofLines`   — the stream read line by line, with every line copied on.
* `Capture.HoldsStart` — what both come to: the start of the stream is kept.
-/

namespace Errand

open Text (Bytes)

/-- What was kept of a stream, and how many bytes were dropped. -/
structure Capture where
  kept : Array UInt8 := #[]
  dropped : Nat := 0
  deriving DecidableEq, Inhabited, Repr

namespace Capture

/-- The bytes that were kept. -/
def bytes (c : Capture) : Bytes := c.kept.toList

/-- Takes in one more piece: what still fits is kept, the rest counted. -/
def add (limit : Nat) (c : Capture) (piece : Bytes) : Capture :=
  let room := limit - c.kept.size
  ⟨c.kept ++ piece.take room, c.dropped + (piece.length - room)⟩

/-- The capture of a stream that arrives in these pieces. -/
def ofChunks (limit : Nat) (chunks : List Bytes) : Capture := chunks.foldl (add limit) {}

-- ---------------------------------------------------------------------------
-- By lines
-- ---------------------------------------------------------------------------

/-- A stream read by lines: the line begun, the lines copied on, and the capture so far. -/
structure LineReader where
  begun : Array UInt8 := #[]
  echoed : Array UInt8 := #[]
  capture : Capture := {}
  deriving DecidableEq, Inhabited, Repr

namespace LineReader

/-- Ends the line begun. -/
def endLine (limit : Nat) (r : LineReader) : LineReader :=
  ⟨#[], r.echoed ++ r.begun, r.capture.add limit r.begun.toList⟩

/-- Takes in a byte; a line feed ends its line. -/
def push (limit : Nat) (r : LineReader) (b : UInt8) : LineReader :=
  let r := { r with begun := r.begun.push b }
  if b = 10 then r.endLine limit else r

/-- Takes in a piece. -/
def add (limit : Nat) (r : LineReader) (piece : Bytes) : LineReader := piece.foldl (push limit) r

/-- Ends the last line, if one is begun. -/
def finish (limit : Nat) (r : LineReader) : LineReader :=
  if r.begun.isEmpty then r else r.endLine limit

end LineReader

/-- The capture of a stream by lines, and what was copied on. -/
def ofLines (limit : Nat) (chunks : List Bytes) : Capture × Bytes :=
  let r := (chunks.foldl (LineReader.add limit) {}).finish limit
  (r.capture, r.echoed.toList)

-- ---------------------------------------------------------------------------
-- What is kept
-- ---------------------------------------------------------------------------

/-- A capture holds the first bytes of a stream up to the limit, and counts the rest. -/
def HoldsStart (limit : Nat) (c : Capture) (stream : Bytes) : Prop :=
  c.bytes = stream.take limit ∧ c.dropped = stream.length - limit

/-- A fresh capture holds the empty stream. -/
theorem holdsStart_nil (limit : Nat) : HoldsStart limit {} [] := by
  simp [HoldsStart, bytes]

/-- A further piece extends the stream that is held. -/
theorem HoldsStart.add {limit : Nat} {c : Capture} {stream : Bytes}
    (h : c.HoldsStart limit stream) (piece : Bytes) :
    (c.add limit piece).HoldsStart limit (stream ++ piece) := by
  obtain ⟨hKept, hDropped⟩ := h
  have hSize : c.kept.size = min limit stream.length := by
    have := congrArg List.length hKept
    simpa [bytes] using this
  constructor
  · have hRoom : limit - min limit stream.length = limit - stream.length := by omega
    simp only [bytes] at hKept
    simp [bytes, Capture.add, hKept, hSize, hRoom, List.take_append]
  · simp only [Capture.add, hDropped, hSize, List.length_append]
    omega

/-- Reading a stream piece by piece keeps its first bytes, however it is cut into pieces. -/
theorem holdsStart_foldl {limit : Nat} {c : Capture} {stream : Bytes}
    (h : c.HoldsStart limit stream) (chunks : List Bytes) :
    (chunks.foldl (Capture.add limit) c).HoldsStart limit (stream ++ chunks.flatten) := by
  induction chunks generalizing c stream with
  | nil => simpa using h
  | cons chunk chunks ih => simpa using ih (h.add chunk)

theorem holdsStart_ofChunks (limit : Nat) (chunks : List Bytes) :
    (Capture.ofChunks limit chunks).HoldsStart limit chunks.flatten :=
  Capture.holdsStart_foldl (Capture.holdsStart_nil limit) chunks

/-- Only one capture holds the start of a stream up to a limit. -/
theorem HoldsStart.unique {limit : Nat} {c c' : Capture} {stream : Bytes}
    (h : c.HoldsStart limit stream) (h' : c'.HoldsStart limit stream) : c = c' := by
  obtain ⟨kept, dropped⟩ := c
  obtain ⟨kept', dropped'⟩ := c'
  have hKept : kept = kept' := Array.toList_inj.mp (h.1.trans h'.1.symm)
  have hDropped : dropped = dropped' := h.2.trans h'.2.symm
  rw [hKept, hDropped]

/-- Every byte of the stream is kept or counted. -/
theorem HoldsStart.accounted {limit : Nat} {c : Capture} {stream : Bytes}
    (h : c.HoldsStart limit stream) : c.kept.size + c.dropped = stream.length := by
  have hSize : c.kept.size = min limit stream.length := by
    have hLength := congrArg List.length h.1
    rwa [Capture.bytes, Array.length_toList, List.length_take] at hLength
  rw [hSize, h.2]
  omega

end Capture

end Errand
