import Errand.Text.Utf8

/-!
# Errand — decoding the start of some bytes

What a reader of UTF-8 has read it never takes back. So the characters of the
first bytes of a stream are the first characters of the stream, except that a
cut in the middle of a character leaves one mark at the end. In the other
direction nothing is lost either: bytes are the bytes of one text only.

* `Decoder.run_read`     — what is read only grows.
* `decodeLossy_append`   — the text of some bytes and the text of the bytes that start them.
* `encode_injective`     — two texts with the same bytes are one text.
-/

namespace Errand.Text

theorem Decoder.begin_read (read : List (Option Char)) (b : Nat) :
    ∃ new, (Decoder.begin read b).read = new ++ read := by
  unfold Decoder.begin
  cases lead b with
  | char c => exact ⟨[some c], rfl⟩
  | start p => exact ⟨[], rfl⟩
  | stray => exact ⟨[none], rfl⟩

theorem Decoder.step_read (d : Decoder) (byte : UInt8) :
    ∃ new, (d.step byte).read = new ++ d.read := by
  simp only [Decoder.step]
  split
  · exact Decoder.begin_read _ _
  · split
    · split
      · exact ⟨[_], rfl⟩
      · exact ⟨[], rfl⟩
    · obtain ⟨new, h⟩ := Decoder.begin_read (none :: d.read) byte.toNat
      exact ⟨new ++ [none], by rw [h]; simp⟩

/-- What has been read stays read, whatever follows. -/
theorem Decoder.run_read (bytes : Bytes) (d : Decoder) :
    ∃ new, (bytes.foldl Decoder.step d).read = new ++ d.read := by
  induction bytes generalizing d with
  | nil => exact ⟨[], rfl⟩
  | cons byte bytes ih =>
    obtain ⟨new, hNew⟩ := d.step_read byte
    obtain ⟨later, hLater⟩ := ih (d.step byte)
    exact ⟨later ++ new, by rw [List.foldl_cons, hLater, hNew, List.append_assoc]⟩

/-- At the end there is what has been read, and a mark if a sequence is open. -/
theorem Decoder.finish_eq (d : Decoder) :
    d.finish = d.read.reverse ∨ d.finish = d.read.reverse ++ [none] := by
  unfold Decoder.finish
  split
  · exact .inl rfl
  · exact .inr List.reverse_cons

theorem decodeMarked_append (bytes more : Bytes) : ∃ start rest,
    decodeMarked (bytes ++ more) = start ++ rest ∧
      (decodeMarked bytes = start ∨ decodeMarked bytes = start ++ [none]) := by
  obtain ⟨new, hNew⟩ :=
    Decoder.run_read more (bytes.foldl Decoder.step Decoder.empty)
  rw [← List.foldl_append] at hNew
  refine ⟨(bytes.foldl Decoder.step Decoder.empty).read.reverse, ?_⟩
  rcases Decoder.finish_eq ((bytes ++ more).foldl Decoder.step Decoder.empty) with h | h
  · exact ⟨new.reverse, by rw [decodeMarked, h, hNew, List.reverse_append], Decoder.finish_eq _⟩
  · exact ⟨new.reverse ++ [none],
      by rw [decodeMarked, h, hNew, List.reverse_append, List.append_assoc], Decoder.finish_eq _⟩

/--
The text of some bytes starts the text of any bytes that they start, but for a
mark at its end where the cut goes through a character.
-/
theorem decodeLossy_append (bytes more : Bytes) : ∃ start rest,
    (decodeLossy (bytes ++ more)).toList = start ++ rest ∧
      ((decodeLossy bytes).toList = start ∨
        (decodeLossy bytes).toList = start ++ [replacement]) := by
  obtain ⟨start, rest, hWhole, hCut⟩ := decodeMarked_append bytes more
  refine ⟨start.map fun mark => mark.getD replacement, rest.map fun mark => mark.getD replacement,
    by simp [decodeLossy, hWhole], hCut.imp (fun h => ?_) (fun h => ?_)⟩
  · simp [decodeLossy, h]
  · simp [decodeLossy, h]

-- ---------------------------------------------------------------------------
-- The bytes of a text
-- ---------------------------------------------------------------------------

theorem byteArray_loop (bs : ByteArray) (i : Nat) (read : List UInt8) :
    ByteArray.toList.loop bs i read = read.reverse ++ bs.data.toList.drop i := by
  fun_induction ByteArray.toList.loop bs i read with
  | case1 i read h ih =>
    have hLength : i < bs.data.toList.length := h
    have hGet : bs.get! i = bs.data.toList[i] := by
      show bs.data[i]! = _
      rw [getElem!_pos bs.data i h, Array.getElem_toList]
    rw [ih, List.drop_eq_getElem_cons hLength, List.reverse_cons, List.append_assoc, hGet]
    rfl
  | case2 i read h =>
    have hLength : bs.data.toList.length ≤ i := Nat.not_lt.mp h
    rw [List.drop_eq_nil_of_le hLength, List.append_nil]

/-- Two texts with the same bytes are one text. -/
theorem encode_injective : Function.Injective encode := by
  intro s t h
  rw [encode, encode, ByteArray.toList, ByteArray.toList, byteArray_loop, byteArray_loop] at h
  exact String.toByteArray_inj.mp (ByteArray.ext (Array.toList_inj.mp h))

end Errand.Text
