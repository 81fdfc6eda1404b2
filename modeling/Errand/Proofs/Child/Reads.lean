import Mathlib
import Errand.Machine.Host

/-!
# Errand — how a stream is read

A child's output arrives in reads of any size, and is kept in one of two ways. The plain
loop takes each read as it comes. The loop that copies the diagnostics on takes lines: it
has a buffer, which a read refills whenever it runs out, and a line goes up to its line
feed over as many reads as that takes; the last line may have none. Where a read ends and
where a line ends have nothing to do with each other, and neither has anything to do with
the limit.

All the same both keep the first bytes of the stream up to the limit and count the rest.
The invariant of either loop is `Capture.HoldsStart`: the capture holds the start of what
has been read so far. In the loop over lines that is what has been copied on so far.

* `Capture.LineReader.Reads`      — the invariant of the reader that is fed byte by byte.
* `Capture.readAll`, `Capture.readLines` — the two loops, read by read.
* `Capture.reads_exactly`         — both keep the start of the stream, however it arrives.
-/

namespace Errand

open Text (Bytes)

namespace Capture

-- ---------------------------------------------------------------------------
-- Byte by byte
-- ---------------------------------------------------------------------------

namespace LineReader

/-- What the reader of lines has made of the bytes so far: what is copied on and the line
begun are all of them, and the capture holds the start of what is copied on. -/
structure Reads (limit : Nat) (r : LineReader) (stream : Bytes) : Prop where
  bytes : r.echoed.toList ++ r.begun.toList = stream
  holds : r.capture.HoldsStart limit r.echoed.toList

theorem reads_nil (limit : Nat) : Reads limit {} [] :=
  ⟨rfl, holdsStart_nil limit⟩

/-- The line begun is copied on as a whole, and taken in as one piece. -/
theorem Reads.endLine {limit : Nat} {r : LineReader} {stream : Bytes} (h : r.Reads limit stream) :
    (r.endLine limit).Reads limit stream where
  bytes := by simpa [LineReader.endLine] using h.bytes
  holds := by simpa [LineReader.endLine] using h.holds.add r.begun.toList

theorem Reads.push {limit : Nat} {r : LineReader} {stream : Bytes} (h : r.Reads limit stream)
    (b : UInt8) : (r.push limit b).Reads limit (stream ++ [b]) := by
  have hBegun : Reads limit { r with begun := r.begun.push b } (stream ++ [b]) := by
    refine ⟨?_, h.holds⟩
    rw [Array.toList_push, ← List.append_assoc, h.bytes]
  unfold LineReader.push
  by_cases hFeed : b = 10
  · simpa only [hFeed, if_true] using (hFeed ▸ hBegun).endLine
  · simpa only [hFeed, if_false] using hBegun

theorem Reads.add {limit : Nat} {r : LineReader} {stream : Bytes} (h : r.Reads limit stream)
    (piece : Bytes) : (r.add limit piece).Reads limit (stream ++ piece) := by
  unfold LineReader.add
  induction piece generalizing r stream with
  | nil => simpa using h
  | cons b piece ih => simpa using ih (h.push b)

theorem Reads.foldl {limit : Nat} {r : LineReader} {stream : Bytes} (h : r.Reads limit stream)
    (chunks : List Bytes) :
    (chunks.foldl (LineReader.add limit) r).Reads limit (stream ++ chunks.flatten) := by
  induction chunks generalizing r stream with
  | nil => simpa using h
  | cons chunk chunks ih => simpa using ih (h.add chunk)

/-- At the end no line is left begun, so all bytes are copied on. -/
theorem Reads.finish {limit : Nat} {r : LineReader} {stream : Bytes} (h : r.Reads limit stream) :
    (r.finish limit).Reads limit stream ∧ (r.finish limit).echoed.toList = stream := by
  unfold LineReader.finish
  by_cases hBegun : r.begun.isEmpty = true
  · rw [if_pos hBegun]
    have hNone : r.begun.toList = [] := by simpa using hBegun
    have hBytes := h.bytes
    rw [hNone, List.append_nil] at hBytes
    exact ⟨h, hBytes⟩
  · rw [if_neg hBegun]
    have hBytes := h.endLine.bytes
    rw [show (r.endLine limit).begun.toList = [] from rfl, List.append_nil] at hBytes
    exact ⟨h.endLine, hBytes⟩

end LineReader

/-- Reading by lines keeps what reading by pieces keeps, and copies the whole stream on. -/
theorem ofLines_eq (limit : Nat) (chunks : List Bytes) :
    ofLines limit chunks = (ofChunks limit chunks, chunks.flatten) := by
  have hReads := (LineReader.reads_nil limit).foldl chunks
  rw [List.nil_append] at hReads
  obtain ⟨hFinished, hEchoed⟩ := hReads.finish
  have hHolds := hFinished.holds
  rw [hEchoed] at hHolds
  rw [ofLines, hHolds.unique (holdsStart_ofChunks limit chunks), hEchoed]

-- ---------------------------------------------------------------------------
-- Read by read
-- ---------------------------------------------------------------------------

/-- Keeps what each read brings, up to one that brings nothing: that is the end. -/
def readAll (limit : Nat) (c : Capture) : List Bytes → Capture
  | [] => c
  | piece :: reads => if piece = [] then c else readAll limit (c.add limit piece) reads

/-- The front of some bytes up to a line feed and with it, and what is behind it; without a
line feed the front is all there is. -/
def cutLine : Bytes → Bytes × Option Bytes
  | [] => ([], none)
  | b :: bytes =>
    if b = 10 then ([b], some bytes) else (b :: (cutLine bytes).1, (cutLine bytes).2)

/-- A stream that is read by way of a buffer: what is in the buffer, and what each further
read will bring to refill it. -/
structure Buffered where
  buffer : Bytes := []
  reads : List Bytes

/-- The bytes that are still to come. -/
def Buffered.rest (s : Buffered) : Bytes := s.buffer ++ s.reads.flatten

/-- The next line and the stream behind it. A line that the buffer does not end goes on into
the next read, and at the end of the stream it ends without a line feed. -/
def takeLine (buffer : Bytes) : List Bytes → Bytes × Buffered
  | [] =>
    match cutLine buffer with
    | (line, some behind) => (line, ⟨behind, []⟩)
    | (line, none) => (line, ⟨[], []⟩)
  | piece :: reads =>
    match cutLine buffer with
    | (line, some behind) => (line, ⟨behind, piece :: reads⟩)
    | (line, none) =>
      if piece = [] then (line, ⟨[], piece :: reads⟩)
      else (line ++ (takeLine piece reads).1, (takeLine piece reads).2)

/-- A line that is taken off the front of a stream. -/
structure Taken (stream : Buffered) (line : Bytes) (behind : Buffered) : Prop where
  /-- Nothing is lost and nothing is read twice. -/
  append : line ++ behind.rest = stream.rest
  /-- The reads that are left come in their order. -/
  reads : behind.reads <:+ stream.reads
  /-- Only at the end of the stream is there no line. -/
  ends : (∀ piece ∈ stream.reads, piece ≠ []) → line = [] → stream.rest = []

/-- A line feed cuts the bytes in two, and the front is not empty. -/
theorem cutLine_some {bytes line behind : Bytes} (h : cutLine bytes = (line, some behind)) :
    line ≠ [] ∧ line ++ behind = bytes := by
  induction bytes generalizing line with
  | nil => simp [cutLine] at h
  | cons b bytes ih =>
    unfold cutLine at h
    by_cases hFeed : b = 10
    · rw [if_pos hFeed, Prod.mk.injEq, Option.some.injEq] at h
      obtain ⟨rfl, rfl⟩ := h
      exact ⟨List.cons_ne_nil _ _, rfl⟩
    · rw [if_neg hFeed, Prod.mk.injEq] at h
      obtain ⟨rfl, hBehind⟩ := h
      have hCut := ih (Prod.ext rfl hBehind)
      exact ⟨List.cons_ne_nil _ _, congrArg (b :: ·) hCut.2⟩

/-- Without a line feed the bytes stay whole. -/
theorem cutLine_none {bytes line : Bytes} (h : cutLine bytes = (line, none)) : line = bytes := by
  induction bytes generalizing line with
  | nil => simpa [cutLine] using h.symm
  | cons b bytes ih =>
    unfold cutLine at h
    by_cases hFeed : b = 10
    · simp [hFeed] at h
    · rw [if_neg hFeed, Prod.mk.injEq] at h
      obtain ⟨rfl, hBehind⟩ := h
      exact congrArg (b :: ·) (ih (Prod.ext rfl hBehind))

/-- A line feed in the buffer ends the line, whatever reads are to come. -/
theorem Taken.of_cutLine {buffer line behind : Bytes} (h : cutLine buffer = (line, some behind))
    (reads : List Bytes) : Taken ⟨buffer, reads⟩ line ⟨behind, reads⟩ := by
  obtain ⟨hLine, hAppend⟩ := cutLine_some h
  refine ⟨?_, List.suffix_refl _, fun _ hNil => absurd hNil hLine⟩
  rw [Buffered.rest, Buffered.rest, ← List.append_assoc, hAppend]

theorem takeLine_taken (buffer : Bytes) (reads : List Bytes) :
    Taken ⟨buffer, reads⟩ (takeLine buffer reads).1 (takeLine buffer reads).2 := by
  -- on the reads, as the line goes on from one into the next
  induction reads generalizing buffer with
  | nil =>
    rcases hCut : cutLine buffer with ⟨line, _ | behind⟩
    · obtain rfl := cutLine_none hCut
      simp only [takeLine, hCut]
      exact ⟨rfl, List.suffix_refl _, fun _ hNil => congrArg (· ++ []) hNil⟩
    · simp only [takeLine, hCut]
      exact .of_cutLine hCut []
  | cons piece reads ih =>
    rcases hCut : cutLine buffer with ⟨line, _ | behind⟩
    · obtain rfl := cutLine_none hCut
      simp only [takeLine, hCut]
      by_cases hEnd : piece = []
      · rw [if_pos hEnd]
        refine ⟨rfl, List.suffix_refl _, fun hReads _ => ?_⟩
        exact absurd hEnd (hReads piece List.mem_cons_self)
      · rw [if_neg hEnd]
        obtain ⟨hAppend, hSuffix, hEnds⟩ := ih piece
        refine ⟨?_, hSuffix.trans (List.suffix_cons piece reads), fun hReads hNil => ?_⟩
        · rw [List.append_assoc, hAppend]
          rfl
        · have hMore := hEnds (fun p hp => hReads p (List.mem_cons_of_mem _ hp))
            (List.append_eq_nil_iff.mp hNil).2
          exact absurd (List.append_eq_nil_iff.mp hMore).1 hEnd
    · simp only [takeLine, hCut]
      exact .of_cutLine hCut (piece :: reads)

/-- The next line of a stream and the stream behind it. -/
def Buffered.line (s : Buffered) : Bytes × Buffered := takeLine s.buffer s.reads

theorem Buffered.line_taken (s : Buffered) : Taken s s.line.1 s.line.2 :=
  takeLine_taken s.buffer s.reads

/-- Takes line after line, copies each on and keeps what fits of it, up to a line of nothing:
that is the end. -/
def readLines (limit : Nat) (c : Capture) (echoed : Bytes) (s : Buffered) : Capture × Bytes :=
  if s.line.1 = [] then (c, echoed)
  else readLines limit (c.add limit s.line.1) (echoed ++ s.line.1) s.line.2
termination_by s.rest.length
decreasing_by
  rename_i hLine
  have hLength := congrArg List.length s.line_taken.append
  have hPos := List.length_pos_of_ne_nil hLine
  rw [List.length_append] at hLength
  omega

/-- The plain loop reads to the end of the stream. -/
theorem readAll_eq_ofChunks (limit : Nat) {reads : List Bytes}
    (hReads : ∀ piece ∈ reads, piece ≠ []) : readAll limit {} reads = ofChunks limit reads := by
  unfold ofChunks
  generalize ({} : Capture) = c
  induction reads generalizing c with
  | nil => rfl
  | cons piece reads ih =>
    rw [List.forall_mem_cons] at hReads
    rw [readAll, if_neg hReads.1, List.foldl_cons, ih hReads.2]

/-- The loop over lines holds the start of what it copies on, and copies on all that comes. -/
theorem readLines_holds {limit : Nat} {c : Capture} {echoed : Bytes} {s : Buffered}
    (h : c.HoldsStart limit echoed) (hReads : ∀ piece ∈ s.reads, piece ≠ []) :
    (readLines limit c echoed s).1.HoldsStart limit (echoed ++ s.rest) ∧
      (readLines limit c echoed s).2 = echoed ++ s.rest := by
  fun_induction readLines limit c echoed s with
  | case1 c echoed s hLine =>
    have hRest : s.rest = [] := s.line_taken.ends hReads hLine
    rw [hRest, List.append_nil]
    exact ⟨h, rfl⟩
  | case2 c echoed s hLine ih =>
    obtain ⟨hAppend, hSuffix, -⟩ := s.line_taken
    have hNext := ih (h.add _) fun piece hp => hReads piece (hSuffix.subset hp)
    rwa [List.append_assoc, hAppend] at hNext

/-- The loop over lines keeps what the plain loop keeps, and copies the whole stream on. -/
theorem readLines_eq_ofChunks (limit : Nat) {reads : List Bytes}
    (hReads : ∀ piece ∈ reads, piece ≠ []) :
    readLines limit {} [] ⟨[], reads⟩ = (ofChunks limit reads, reads.flatten) := by
  obtain ⟨hHolds, hEchoed⟩ := readLines_holds (s := ⟨[], reads⟩) (holdsStart_nil limit) hReads
  exact Prod.ext (hHolds.unique (holdsStart_ofChunks limit reads)) hEchoed

-- ---------------------------------------------------------------------------
-- Both ways
-- ---------------------------------------------------------------------------

/-- What becomes of a stream that is delivered by these reads. -/
structure ReadsExactly (limit : Nat) (reads : List Bytes) : Prop where
  /-- The plain loop keeps the first bytes up to the limit. -/
  kept : (readAll limit {} reads).bytes = reads.flatten.take (min limit reads.flatten.length)
  /-- It counts the others. -/
  dropped : (readAll limit {} reads).dropped =
    reads.flatten.length - min limit reads.flatten.length
  /-- The loop over lines keeps and counts the same, and copies on the stream as it is. -/
  lines : readLines limit {} [] ⟨[], reads⟩ = (readAll limit {} reads, reads.flatten)
  /-- Every byte is kept or counted. -/
  accounted : (readAll limit {} reads).kept.size + (readAll limit {} reads).dropped =
    reads.flatten.length
  /-- A reader that is given the pieces does as the plain loop does. -/
  chunks : ofChunks limit reads = readAll limit {} reads
  /-- A reader that is given them byte by byte does as the loop over lines does. -/
  bytewise : ofLines limit reads = readLines limit {} [] ⟨[], reads⟩
  /-- The same stream in other reads comes to the same. -/
  delivery : ∀ reads' : List Bytes, (∀ piece ∈ reads', piece ≠ []) →
    reads'.flatten = reads.flatten → readAll limit {} reads' = readAll limit {} reads ∧
      readLines limit {} [] ⟨[], reads'⟩ = readLines limit {} [] ⟨[], reads⟩

end Capture

-- ---------------------------------------------------------------------------
-- A child's diagnostics
-- ---------------------------------------------------------------------------

namespace Machine

/-- To look at what was written to a channel changes nothing. -/
theorem written_run (channel : Nat) (w : World) :
    (written channel).run w = (((written channel).run w).1, w) := by
  have hChannel : (Machine.channel channel).run w = (w.channels.getD channel .void, w) := rfl
  unfold written
  rw [StateT.run_bind, hChannel]
  cases w.channels.getD channel .void <;> rfl

/-- Diagnostics that are copied on are captured as others are, and appear on the console. -/
theorem capturedAndEchoed_run (limit : Option Nat) (channel : Nat) (w : World) :
    (capturedAndEchoed limit channel).run w = (((captured limit channel).run w).1,
      { w with console :=
          w.console ++ (Octets.toBytes ((written channel).run w).1).toArray }) := by
  unfold capturedAndEchoed captured
  rw [StateT.run_bind, StateT.run_bind, written_run]
  simp only [Capture.ofLines_eq, List.flatten_singleton]
  rfl

end Machine

/--
**Both ways of reading keep exactly the start of a stream**, up to the limit, and count the
rest, in whatever reads it is delivered and wherever its lines end. So what is kept of a
child's diagnostics is the same whether they are copied on or not.
-/
theorem Capture.reads_exactly {limit : Nat} {reads : List Bytes}
    (hReads : ∀ piece ∈ reads, piece ≠ []) : Capture.ReadsExactly limit reads ∧
      ∀ (bound : Option Nat) (channel : Nat) (w : Machine.World),
        ((Machine.capturedAndEchoed bound channel).run w).1 =
          ((Machine.captured bound channel).run w).1 := by
  have hHolds := holdsStart_ofChunks limit reads
  have hAll := readAll_eq_ofChunks limit hReads
  have hLines := readLines_eq_ofChunks limit hReads
  refine ⟨⟨?_, ?_, ?_, ?_, hAll.symm, ?_, fun reads' hReads' hStream => ?_⟩,
    fun bound channel w => ?_⟩
  · rw [hAll, hHolds.1, List.take_eq_take_iff]
    omega
  · rw [hAll, hHolds.2]
    omega
  · rw [hLines, hAll]
  · rw [hAll, hHolds.accounted]
  · rw [ofLines_eq, hLines]
  · have hSame : ofChunks limit reads' = ofChunks limit reads :=
      (holdsStart_ofChunks limit reads').unique (hStream ▸ hHolds)
    have hAll' := readAll_eq_ofChunks limit hReads'
    have hLines' := readLines_eq_ofChunks limit hReads'
    exact ⟨by rw [hAll', hAll, hSame], by rw [hLines', hLines, hSame, hStream]⟩
  · rw [Machine.capturedAndEchoed_run]

/-- Two lines and the start of a third in three reads that end elsewhere, with a limit that
falls into the second line. -/
theorem Capture.reads_exactly_broken :
    let reads : List Bytes := [[0x61, 0x62, 0x0A, 0x63], [0x64], [0x65, 0x0A, 0x66]]
    Capture.ReadsExactly 5 reads ∧
      Capture.ofLines 5 reads = (⟨#[0x61, 0x62, 0x0A, 0x63, 0x64], 3⟩, reads.flatten) := by
  intro reads
  have hReads : ∀ piece ∈ reads, piece ≠ [] := by decide
  exact ⟨(Capture.reads_exactly hReads).1, by decide⟩

end Errand
