import Errand.Proofs.Result.Breakdown
import Errand.Proofs.Result.Truncated

/-!
# Errand — the exit status and the result

An agent reports success and failure in its result, not by its exit status. A
finished agent whose output holds a result has that result, however it exited. The
look at the first character, which spares the reader an output that cannot hold a
result, never turns one away: whatever spells an object starts with a brace once the
white space is off, and the white space between tokens is white space of that kind too.
Only the deadline overrules the output: an agent killed there has no result, even if it
printed one and exited well.

* `looksLikeObject_of_read`   — no output that holds a result is turned away.
* `interpretOutput_timedOut`  — an agent that was killed at its deadline.
* `interpretOutput_impartial` — the result is that of the output alone.
-/

namespace Errand

-- ---------------------------------------------------------------------------
-- Outputs that hold a result
-- ---------------------------------------------------------------------------

/-- An output that holds a result looks like an object. -/
theorem looksLikeObject_of_read {text : String} {r : AgentResult}
    (h : AgentResult.read text = .ok r) : looksLikeObject text = true := by
  have hParse : AgentResult.parse text = .ok r := AgentResult.read_eq_ok_iff.mp h
  obtain ⟨fields, hObject, -⟩ := exists_object_of_parse hParse
  exact hObject.looksLikeObject_iff.mpr ⟨fields, rfl⟩

/-- A finished agent has a result exactly if its output holds it, whatever its exit status. -/
theorem interpretOutput_eq_ok_iff_read {secs : Option Nat} {o : ChildOutput} {r : AgentResult} :
    interpretOutput secs o = .ok r ↔
      o.timedOut = false ∧ AgentResult.read o.stdoutText = .ok r := by
  rw [interpretOutput_eq_ok_iff, ← AgentResult.read_eq_ok_iff]
  constructor
  · rintro ⟨hEnded, -, hRead⟩
    exact ⟨hEnded, hRead⟩
  · rintro ⟨hEnded, hRead⟩
    have hLooks : looksLikeObject o.stdoutText = true := looksLikeObject_of_read hRead
    exact ⟨hEnded, .inr hLooks, hRead⟩

-- ---------------------------------------------------------------------------
-- The deadline
-- ---------------------------------------------------------------------------

/-- An agent that was killed at its deadline has failed, whatever it printed. -/
theorem interpretOutput_timedOut (secs : Option Nat) {o : ChildOutput} (h : o.timedOut = true) :
    interpretOutput secs o = .error (.agentFailed o.status.code?
      ("agent timed out after " ++ secondsText secs ++ "\n" ++ o.stderrText)) := by
  rw [interpretOutput, if_pos h]

-- ---------------------------------------------------------------------------
-- The result
-- ---------------------------------------------------------------------------

/-- The result of an agent comes from its output, and its exit status has no part in it. -/
structure Impartial (secs : Option Nat) (o : ChildOutput) : Prop where
  /-- There is a result exactly if the agent came to its end and its output holds it. -/
  ok_iff : ∀ r, interpretOutput secs o = .ok r ↔
    o.timedOut = false ∧ AgentResult.read o.stdoutText = .ok r
  /-- Agents that came to their end with the same output have the same result, or none. -/
  agrees : ∀ (secs' : Option Nat) (o' : ChildOutput), o'.stdout.bytes = o.stdout.bytes →
    o'.timedOut = o.timedOut →
      ∀ r, interpretOutput secs' o' = .ok r ↔ interpretOutput secs o = .ok r
  /-- An output that holds a result is never turned away for its first character. -/
  admitted : ∀ r, AgentResult.read o.stdoutText = .ok r → looksLikeObject o.stdoutText = true
  /-- An agent that was killed at its deadline has no result. -/
  overdue : o.timedOut = true → ∃ diagnostics,
    interpretOutput secs o = .error (.agentFailed o.status.code? diagnostics)

/--
**The exit status never decides over a result.** Whatever an agent printed on its
output and as its diagnostics, and however it exited, it has the result that its output
holds, unless it was killed at its deadline.
-/
theorem interpretOutput_impartial (secs : Option Nat) (o : ChildOutput) : Impartial secs o where
  ok_iff := fun _ => interpretOutput_eq_ok_iff_read
  agrees := by
    intro secs' o' hBytes hTimedOut r
    have hText : o'.stdoutText = o.stdoutText := congrArg Text.decodeLossy hBytes
    rw [interpretOutput_eq_ok_iff_read, interpretOutput_eq_ok_iff_read, hText, hTimedOut]
  admitted := fun _ hRead => looksLikeObject_of_read hRead
  overdue := fun hTimedOut => ⟨_, interpretOutput_timedOut secs hTimedOut⟩

/-- The output of an agent that a signal killed after it had printed. The same output counts
as much if the agent exits well, and for nothing if it was killed at its deadline. -/
theorem interpretOutput_impartial_killed :
    let stdout : Capture := ⟨(Text.encode "\n \x7b\x7d").toArray, 0⟩
    let killed : ChildOutput := ⟨.killed 9, stdout, {}, false⟩
    let exited : ChildOutput := ⟨.exited 0, stdout, {}, false⟩
    let overdue : ChildOutput := ⟨.exited 0, stdout, {}, true⟩
    killed.status.isSuccess = false ∧ interpretOutput none killed = .ok {} ∧
      interpretOutput none exited = .ok {} ∧
      ∃ diagnostics, interpretOutput none overdue = .error (.agentFailed (some 0) diagnostics) := by
  intro stdout killed exited overdue
  have hText : killed.stdoutText = "\n \x7b\x7d" := by cbv
  have hValue : Json.parse? "\n \x7b\x7d" = some (.object []) := by cbv
  have hRead : AgentResult.read killed.stdoutText = .ok {} := by
    rw [hText, AgentResult.read_eq_ok_iff, AgentResult.parse, hValue]
    rfl
  have hKilled : interpretOutput none killed = .ok {} :=
    ((interpretOutput_impartial none killed).ok_iff {}).mpr ⟨rfl, hRead⟩
  refine ⟨rfl, hKilled, ?_, (interpretOutput_impartial none overdue).overdue rfl⟩
  exact ((interpretOutput_impartial none killed).agrees none exited rfl rfl {}).mpr hKilled

end Errand
