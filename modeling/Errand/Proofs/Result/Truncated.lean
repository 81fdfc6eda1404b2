import Errand.Agent
import Errand.Proofs.Result.Reading
import Errand.Proofs.Text.Decoder

/-!
# Errand — output that was cut off

An agent's output is kept up to a limit. A cut may fall anywhere, in the middle
of a character too. What is left then either holds the result of the whole
output, because only white space was lost or nothing at all, or it is refused;
it never holds another result.

* `parse_cut`                 — a text that is cut holds the same result or none.
* `interpretOutput_eq_ok_iff` — when a finished agent has a result.
* `interpretOutput_cut`       — the same for a finished agent.
-/

namespace Errand

open Text (Bytes)

-- ---------------------------------------------------------------------------
-- Texts
-- ---------------------------------------------------------------------------

/-- The value of a text that holds a result is an object. -/
theorem exists_object_of_parse {raw : String} {r : AgentResult}
    (h : AgentResult.parse raw = .ok r) : ∃ fields, Json.Acceptable raw (.object fields) ∧
      AgentResult.ofJson (.object fields) = .ok r := by
  obtain ⟨fields, hFields, -⟩ := exists_parse_iff.mp ⟨r, h⟩
  exact ⟨fields, hFields, AgentResult.parse_of_acceptable hFields ▸ h⟩

/-- The start of some bytes holds the result that the bytes hold, or none. -/
theorem parse_cut {bytes more : Bytes} {r r' : AgentResult}
    (h : AgentResult.parse (Text.decodeLossy (bytes ++ more)) = .ok r)
    (h' : AgentResult.parse (Text.decodeLossy bytes) = .ok r') : r' = r := by
  obtain ⟨fields, hWhole, hr⟩ := exists_object_of_parse h
  obtain ⟨fields', hCut, hr'⟩ := exists_object_of_parse h'
  obtain ⟨start, rest, hText, hStart | hMark⟩ := Text.decodeLossy_append bytes more
  · have := hCut.eq_of_append hWhole (by rw [hText, hStart])
    rw [← this, hr] at hr'
    exact (Except.ok.inj hr').symm
  · -- no object ends with the mark of a broken character
    rcases hCut.object_last hMark with hBrace | hBlank
    · exact absurd hBrace (by decide)
    · exact absurd hBlank (by decide)

-- ---------------------------------------------------------------------------
-- Agents
-- ---------------------------------------------------------------------------

/--
A finished agent has the result that its output holds. Its exit status matters
only if the output does not even look like a result.
-/
theorem interpretOutput_eq_ok_iff {secs : Option Nat} {o : ChildOutput} {r : AgentResult} :
    interpretOutput secs o = .ok r ↔ o.timedOut = false ∧
      (o.status.isSuccess = true ∨ looksLikeObject o.stdoutText = true) ∧
      AgentResult.parse o.stdoutText = .ok r := by
  rw [interpretOutput, ← AgentResult.read_eq_ok_iff]
  cases o.timedOut <;> cases o.status.isSuccess <;> cases looksLikeObject o.stdoutText <;> simp

/--
An output that is cut off at any limit, however it arrived, is never read as
another result: it has the result of the whole output, or is an error. That is so
whatever the exit status, which decides about errors only.
-/
theorem interpretOutput_cut (secs : Option Nat) {whole cut : ChildOutput} {r : AgentResult}
    (h : interpretOutput secs whole = .ok r) {limit : Nat} {chunks : List Bytes}
    (hStream : whole.stdout.bytes = chunks.flatten)
    (hKept : cut.stdout = Capture.ofChunks limit chunks) :
    interpretOutput secs cut = .ok r ∨ ∃ e, interpretOutput secs cut = .error e := by
  cases hRead : interpretOutput secs cut with
  | error e => exact .inr ⟨e, rfl⟩
  | ok r' =>
    have hBytes : cut.stdout.bytes = whole.stdout.bytes.take limit := by
      rw [hKept, hStream]
      exact (Capture.holdsStart_ofChunks limit chunks).1
    obtain ⟨-, -, hr⟩ := interpretOutput_eq_ok_iff.mp h
    obtain ⟨-, -, hr'⟩ := interpretOutput_eq_ok_iff.mp hRead
    rw [ChildOutput.stdoutText, ← List.take_append_drop limit whole.stdout.bytes, ← hBytes] at hr
    exact .inl (congrArg Except.ok (parse_cut hr hr'))

/-- An output of a failed agent that is cut in the middle of a character. -/
theorem interpretOutput_cut_midCharacter :
    let chunks : List Bytes := [[0x7B, 0x22, 0xC3], [0xA9, 0x22, 0x3A, 0x5B, 0x5D, 0x7D]]
    let output (limit : Nat) : ChildOutput := ⟨.exited 1, Capture.ofChunks limit chunks, {}, false⟩
    interpretOutput none (output 9) = .ok {} ∧
      (interpretOutput none (output 3) = .ok {} ∨
        ∃ e, interpretOutput none (output 3) = .error e) := by
  intro chunks output
  have hText : (output 9).stdoutText = "\x7b\"é\":[]\x7d" := by cbv
  have hValue : Json.parse? "\x7b\"é\":[]\x7d" = some (.object [("é", .array [])]) := by cbv
  have hLooks : looksLikeObject "\x7b\"é\":[]\x7d" = true := by cbv
  have h : interpretOutput none (output 9) = .ok {} := by
    rw [interpretOutput_eq_ok_iff, hText, AgentResult.parse, hValue]
    exact ⟨rfl, .inr hLooks, rfl⟩
  exact ⟨h, interpretOutput_cut none h (by decide) rfl⟩

end Errand
