import Errand.Agent
import Errand.Proofs.Result.Reading
import Errand.Proofs.Text.Trimming

/-!
# Errand — an agent that breaks down

Whether a failed agent left a result is decided by the first character of its output
that is no white space. On every text that spells a value this is right: the text
starts with a brace exactly if the value is an object. It is not right on a text that
starts like an object and spells no value, such as one that breaks off; there the error
is about the output, and the exit status and the diagnostics are lost.

* `Acceptable.looksLikeObject_iff` — what the first character tells of a text that spells a value.
* `Garbled`                — the text starts like an object and spells no value.
* `interpretOutput_failed` — what becomes of a failed agent.
-/

namespace Errand

-- ---------------------------------------------------------------------------
-- The first character
-- ---------------------------------------------------------------------------

namespace Json

/-- The white space between tokens is white space. -/
theorem Blanks.isSpace {w : List Char} (h : Blanks w) : ∀ c ∈ w, Text.isSpace c = true := by
  intro c hc
  have hBlank := h c hc
  simp only [List.mem_cons, List.not_mem_nil, or_false] at hBlank
  rcases hBlank with rfl | rfl | rfl | rfl <;> decide

/-- A value does not start with white space, and an object alone starts with a brace. -/
theorem Written.first {depth : Nat} {cs : List Char} {v : Json} (h : Written depth cs v) :
    ∃ c rest, cs = c :: rest ∧ Text.isSpace c = false ∧
      (c = '\x7b' ↔ ∃ fields, v = .object fields) := by
  cases h with
  | number h =>
    obtain ⟨c, rest, rfl, hc⟩ := h.head
    refine ⟨c, rest, rfl, ?_, iff_of_false ?_ nofun⟩
    · rcases hc with rfl | hDigit
      · decide
      · exact Text.isSpace_of_isDigit hDigit
    · rintro rfl
      revert hc
      decide
  | emptyObject h => exact ⟨_, _, rfl, by decide, iff_of_true rfl ⟨_, rfl⟩⟩
  | object h => exact ⟨_, _, rfl, by decide, iff_of_true rfl ⟨_, rfl⟩⟩
  | _ => exact ⟨_, _, rfl, by decide, iff_of_false (by decide) nofun⟩

/-- **On a text that spells a value the first character is right**: the text starts like
an object exactly if it spells one. -/
theorem Acceptable.looksLikeObject_iff {text : String} {v : Json} (h : Acceptable text v) :
    looksLikeObject text = true ↔ ∃ fields, v = .object fields := by
  rw [Acceptable] at h
  rw [looksLikeObject, decide_eq_true_iff]
  generalize text.toList = chars at h
  obtain ⟨before, written, -⟩ := h
  obtain ⟨c, rest, rfl, hSpace, hBrace⟩ := written.first
  rw [Text.trimFront, List.dropWhile_append_of_pos before.isSpace, List.cons_append,
    List.dropWhile_cons_of_neg (by simp [hSpace]), ← hBrace]
  exact Option.some_inj

end Json

-- ---------------------------------------------------------------------------
-- Failed agents
-- ---------------------------------------------------------------------------

/-- The text starts like an object, after white space, and spells no value. -/
def Garbled (text : String) : Prop :=
  looksLikeObject text = true ∧ ∀ v, ¬ Json.Acceptable text v

/-- What starts like an object is one, or is garbled. -/
theorem looksLikeObject_iff {text : String} : looksLikeObject text = true ↔
    (∃ fields, Json.Acceptable text (.object fields)) ∨ Garbled text := by
  constructor
  · intro hLooks
    by_cases hValue : ∃ v, Json.Acceptable text v
    · obtain ⟨v, hv⟩ := hValue
      obtain ⟨fields, rfl⟩ := hv.looksLikeObject_iff.mp hLooks
      exact .inl ⟨fields, hv⟩
    · exact .inr ⟨hLooks, not_exists.mp hValue⟩
  · rintro (⟨fields, hObject⟩ | ⟨hLooks, -⟩)
    · exact hObject.looksLikeObject_iff.mpr ⟨fields, rfl⟩
    · exact hLooks

/-- A garbled text is refused as one that spells no value, for a reason that is given. -/
theorem Garbled.exists_read_eq {text : String} (h : Garbled text) :
    ∃ reason, AgentResult.read text = .error (.ofOutput reason text) := by
  have hNone : Json.parse? text = none :=
    Option.eq_none_iff_forall_ne_some.mpr fun v hv => h.2 v (Json.parse?_eq_some_iff.mp hv)
  have hParse : AgentResult.parse text = .error .notJson := by rw [AgentResult.parse, hNone]
  exact ⟨_, read_eq_error hParse⟩

/-- No text is read as the failure of the agent that printed it. -/
theorem AgentResult.read_ne_agentFailed (text : String) (code : Option Int)
    (diagnostics : String) : AgentResult.read text ≠ .error (.agentFailed code diagnostics) := by
  unfold AgentResult.read
  cases AgentResult.parse text with
  | ok r => nofun
  | error fault => nofun

/-- What becomes of an agent that failed before its deadline. -/
structure Breakdown (o : ChildOutput) (r : Except RunError AgentResult) : Prop where
  /-- An object on its output is read as the result of any other agent is. -/
  object : ∀ fields, Json.Acceptable o.stdoutText (.object fields) →
    r = AgentResult.read o.stdoutText
  /-- The error carries the exit code and the diagnostics exactly if there is no object, and
  no garbled text in its place. -/
  failed_iff : r = .error (.agentFailed o.status.code? o.stderrText) ↔
    (∀ fields, ¬ Json.Acceptable o.stdoutText (.object fields)) ∧ ¬ Garbled o.stdoutText
  /-- A garbled text is quoted instead, with a reason, and nothing else is kept. -/
  garbled : Garbled o.stdoutText → ∃ reason, r = .error (.ofOutput reason o.stdoutText)

/-- Only what the output looks like decides. -/
theorem interpretOutput_of_failed (secs : Option Nat) {o : ChildOutput}
    (hEnded : o.timedOut = false) (hFailed : o.status.isSuccess = false) :
    interpretOutput secs o =
      if looksLikeObject o.stdoutText then AgentResult.read o.stdoutText
      else .error (.agentFailed o.status.code? o.stderrText) := by
  unfold interpretOutput
  cases looksLikeObject o.stdoutText <;> simp [hEnded, hFailed]

/--
**What becomes of a failed agent.** Its exit code and its diagnostics are reported if it
printed a value that is no object, or a text that does not start like one; so they are
not if it broke off in the middle of an object.
-/
theorem interpretOutput_failed (secs : Option Nat) {o : ChildOutput} (hEnded : o.timedOut = false)
    (hFailed : o.status.isSuccess = false) : Breakdown o (interpretOutput secs o) := by
  rw [interpretOutput_of_failed secs hEnded hFailed]
  refine ⟨fun fields hObject => ?_, ?_, fun hGarbled => ?_⟩
  · rw [if_pos (looksLikeObject_iff.mpr (.inl ⟨fields, hObject⟩))]
  · rw [← not_exists, ← not_or, ← looksLikeObject_iff]
    by_cases hLooks : looksLikeObject o.stdoutText = true
    · rw [if_pos hLooks]
      exact iff_of_false (AgentResult.read_ne_agentFailed _ _ _) (not_not_intro hLooks)
    · rw [if_neg hLooks]
      exact iff_of_true rfl hLooks
  · rw [if_pos hGarbled.1]
    exact hGarbled.exists_read_eq

/-- An agent that failed after it printed a list. -/
theorem interpretOutput_failed_list :
    let o : ChildOutput :=
      { status := .exited 2, stdout := ⟨(Text.encode " []\n").toArray, 0⟩,
        stderr := ⟨(Text.encode "locked").toArray, 0⟩ }
    (∃ v, Json.Acceptable o.stdoutText v) ∧
      interpretOutput none o = .error (.agentFailed (some 2) "locked") ∧
      Breakdown o (interpretOutput none o) := by
  intro o
  have hText : o.stdoutText = " []\n" := by cbv
  have hWords : o.stderrText = "locked" := by cbv
  have hValue : Json.parse? " []\n" = some (.array []) := by cbv
  have hNot : looksLikeObject " []\n" = false := by cbv
  have hFailed : interpretOutput none o = .error (.agentFailed (some 2) "locked") := by
    rw [interpretOutput_of_failed none rfl rfl, hText, hNot, hWords]
    rfl
  exact ⟨⟨_, Json.parse?_eq_some_iff.mp (hText ▸ hValue)⟩, hFailed,
    interpretOutput_failed none rfl rfl⟩

/-- An agent that broke off in the middle of an object: there is no object on its output,
and what it said of its end is lost. -/
theorem interpretOutput_brokeOff :
    let o : ChildOutput :=
      { status := .exited 101, stdout := ⟨(Text.encode "\x7b\"summ").toArray, 0⟩,
        stderr := ⟨(Text.encode "out of memory").toArray, 0⟩ }
    o.timedOut = false ∧ o.status.isSuccess = false ∧ (∀ v, ¬ Json.Acceptable o.stdoutText v) ∧
      (∃ reason, interpretOutput none o = .error (.ofOutput reason "\x7b\"summ")) ∧
      interpretOutput none o ≠ .error (.agentFailed o.status.code? o.stderrText) := by
  intro o
  have hText : o.stdoutText = "\x7b\"summ" := by cbv
  have hLooks : looksLikeObject "\x7b\"summ" = true := by cbv
  have hNone : Json.parse? "\x7b\"summ" = none := by cbv
  have hGarbled : Garbled "\x7b\"summ" := ⟨hLooks, fun v hv => by
    rw [Json.parse?_eq_some_iff.mpr hv] at hNone
    cases hNone⟩
  obtain ⟨reason, hRefused⟩ : ∃ reason,
      interpretOutput none o = .error (.ofOutput reason "\x7b\"summ") := by
    rw [interpretOutput_of_failed none rfl rfl, hText, if_pos hLooks]
    exact hGarbled.exists_read_eq
  refine ⟨rfl, rfl, hText ▸ hGarbled.2, ⟨reason, hRefused⟩, ?_⟩
  rw [hRefused]
  exact fun h => by cases h

end Errand
