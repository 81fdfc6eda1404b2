import Errand.Proofs.Config.Accepted
import Errand.Proofs.Run.Interrupt

/-!
# Errand — the exit code of the program

The program does a little before its run: it reads its words, its input and its settings, and
each of these can fail. None of these failures is an interrupt; what comes after them is the end
of the run and nothing else. So what is known of the errors of a run is known of the exit codes
of the program.

* `Begins`        — the program gets as far as its run.
* `Begins.run_eq` — once it gets that far, its end is that of the run.
* `Ended`         — the ways in which the program can end.
* `run_ended`     — every course of the program is one of these.
* `run_code`      — what the exit code tells.
-/

namespace Errand

open Dialogue (tripped)

/-- Only accepted settings are loaded. -/
theorem Config.validate_of_load {c : Config} {path : String} {source : Source}
    (h : load path source = .ok c) : c.validate = .ok () := by
  cases source with
  | missing =>
    cases hValid : ({} : Config).validate with
    | error fault => simp [load, hValid] at h
    | ok =>
      obtain rfl : ({} : Config) = c := by simpa [load, hValid] using h
      exact hValid
  | unreadable reason => cases h
  | contents bytes =>
    -- The bytes are a text, the text is a settings file, and its settings are accepted.
    simp only [load] at h
    split at h
    next => cases h
    next text hText =>
      split at h
      next => cases h
      next written hWritten =>
        split at h
        next hValid =>
          cases h
          exact hValid
        next => cases h

/-- What names no task is a usage error. -/
theorem Task.ofInputs_error {text issue stream : Option String} {e : RunError}
    (h : ofInputs text issue stream = .error e) : ∃ detail, e = .usage detail := by
  unfold ofInputs at h
  repeat' split at h
  all_goals cases h
  all_goals exact ⟨_, rfl⟩

/-- The token is tripped before a run with programs, or in the course of it. -/
def Collaborators.Interrupted {σ : Type} (c : Collaborators (StateM σ)) (task : Task)
    (options : RunOptions) (s : σ) : Prop :=
  let started := c.host.interrupted.run s
  let trace := ((dispatch c.config task options started.1).run c.script started.2).2.1
  (started.1 || tripped trace) = true

namespace CommandLine

variable {σ : Type} {s : Surroundings (StateM σ)} {words : List String} {start begun : σ}
  {a : Arguments} {task : Task} {c : Collaborators (StateM σ)} {x : Exit × σ}

-- ---------------------------------------------------------------------------
-- The course of the program
-- ---------------------------------------------------------------------------

/-- What is done first decides from where, and with what, the rest goes on. -/
theorem run_bind_eq {α β : Type} {first : StateM σ α} {rest : α → StateM σ β} {v : α}
    {later : σ} (h : first.run start = (v, later)) :
    (first >>= rest).run start = (rest v).run later := by
  rw [StateT.run_bind, h]
  rfl

/-- The program gets as far as its run: of this task, with these choices and programs. -/
inductive Begins (s : Surroundings (StateM σ)) (words : List String) (start : σ) :
    Arguments → Task → Collaborators (StateM σ) → σ → Prop
  | intro {a : Arguments} {stream : Option String} {task : Task} {source : Config.Source}
      {config : Config} {pattern : Pattern} {later begun : σ}
      (read : Arguments.read words = .ok a)
      (input : (readStream s a).run start = (.ok stream, later))
      (target : Task.ofInputs a.task a.issue stream = .ok task)
      (found : (s.readConfig a.configPath).run later = (source, begun))
      (settings : Config.load a.configPath source = .ok config)
      (compiled : Pattern.read? config.tracker.idPattern = some pattern) :
      Begins s words start a task { host := s.toHost, config, pattern, echo := a.verbose } begun

/-- **Once the program gets as far as its run, its end is that of the run.** -/
theorem Begins.run_eq (h : Begins s words start a task c begun) :
    (run s words).run start = (finished a.json <$> c.perform task a.runOptions).run begun := by
  obtain ⟨read, input, target, found, settings, compiled⟩ := h
  simp only [run, read, run_bind_eq input, target, runTask, run_bind_eq found, settings, runWith,
    compiled]
  rw [map_eq_pure_bind]

/-- The ways in which the program can end, and the state that it leaves. -/
inductive Ended (s : Surroundings (StateM σ)) (words : List String) (start : σ) : Exit × σ → Prop
  /-- Its words ask for no run, or are refused. -/
  | stopped {stop : Arguments.Stop} (read : Arguments.read words = .error stop) :
      Ended s words start (stopped stop, start)
  /-- Its input is no text. -/
  | unread {a : Arguments} {f : Failure} {later : σ} (read : Arguments.read words = .ok a)
      (input : (readStream s a).run start = (.error f, later)) :
      Ended s words start (unable f, later)
  /-- It is not told what the task is. -/
  | untold {a : Arguments} {stream : Option String} {e : RunError} {later : σ}
      (read : Arguments.read words = .ok a)
      (input : (readStream s a).run start = (.ok stream, later))
      (target : Task.ofInputs a.task a.issue stream = .error e) :
      Ended s words start (aborted e, later)
  /-- Its settings are refused. -/
  | unsettled {a : Arguments} {stream : Option String} {task : Task} {source : Config.Source}
      {fault : Config.LoadFault} {later last : σ} (read : Arguments.read words = .ok a)
      (input : (readStream s a).run start = (.ok stream, later))
      (target : Task.ofInputs a.task a.issue stream = .ok task)
      (found : (s.readConfig a.configPath).run later = (source, last))
      (settings : Config.load a.configPath source = .error fault) :
      Ended s words start (unable fault.failure, last)
  /-- Its run comes to an end. -/
  | ran {a : Arguments} {task : Task} {c : Collaborators (StateM σ)} {begun : σ}
      (begins : Begins s words start a task c begun) :
      Ended s words start ((finished a.json <$> c.perform task a.runOptions).run begun)

/-- **Every course of the program is one of these**, whatever it finds around it. -/
theorem run_ended (s : Surroundings (StateM σ)) (words : List String) (start : σ) :
    Ended s words start ((run s words).run start) := by
  cases hRead : Arguments.read words with
  | error stop =>
    simp only [run, hRead]
    exact .stopped hRead
  | ok a =>
    rcases hInput : (readStream s a).run start with ⟨input, later⟩
    cases input with
    | error f =>
      simp only [run, hRead, run_bind_eq hInput]
      exact .unread hRead hInput
    | ok stream =>
      cases hTask : Task.ofInputs a.task a.issue stream with
      | error e =>
        simp only [run, hRead, run_bind_eq hInput, hTask]
        exact .untold hRead hInput hTask
      | ok task =>
        rcases hFound : (s.readConfig a.configPath).run later with ⟨source, last⟩
        cases hLoad : Config.load a.configPath source with
        | error fault =>
          simp only [run, hRead, run_bind_eq hInput, hTask, runTask, run_bind_eq hFound, hLoad]
          exact .unsettled hRead hInput hTask hFound hLoad
        | ok config =>
          obtain ⟨pattern, hPattern⟩ := Config.exists_pattern (Config.validate_of_load hLoad)
          have begins := Begins.intro hRead hInput hTask hFound hLoad hPattern
          rw [begins.run_eq]
          exact .ran begins

-- ---------------------------------------------------------------------------
-- What the exit code tells
-- ---------------------------------------------------------------------------

/-- The exit of a program that gets as far as its run. -/
theorem Begins.exit_eq (h : Begins s words start a task c begun) : ((run s words).run start).1 =
    finished a.json ((c.perform task a.runOptions).run begun).1 :=
  congrArg Prod.fst h.run_eq

theorem Begins.code_interrupted_iff (h : Begins s words start a task c begun) :
    ((run s words).run start).1.code = interruptedCode ↔
      c.Interrupted task a.runOptions begun := by
  rw [h.exit_eq, finished_code_interrupted]
  exact c.perform_interrupted_iff begun

theorem Begins.code_ok_iff (h : Begins s words start a task c begun) :
    ((run s words).run start).1.code = okCode ↔
      ∃ o, ((c.perform task a.runOptions).run begun).1 = .ok o ∧ o.result.success = true := by
  rw [h.exit_eq]
  exact finished_code_ok

theorem Begins.code_cases (h : Begins s words start a task c begun) :
    let code := ((run s words).run start).1.code
    code = interruptedCode ∨ code = okCode ∨ code = failedCode := by
  rw [h.exit_eq]
  exact finished_code_cases

/-- The words ask how the program is used, or which one it is. -/
def Asks (words : List String) : Prop :=
  Arguments.read words = .error .help ∨ Arguments.read words = .error .version

theorem run_code_of_asks (h : Asks words) : ((run s words).run start).1.code = okCode := by
  rcases h with h | h <;> simp only [run, h] <;> rfl

/-- A program that does not get as far as its run fails, unless its words ask for no run. -/
theorem Ended.code_or_begins (h : Ended s words start x) :
    x.1.code = failedCode ∨ x.1.code = okCode ∧ Asks words ∨
      ∃ a task c begun, Begins s words start a task c begun := by
  cases h with
  | @stopped stop read =>
    cases stop with
    | help => exact .inr (.inl ⟨rfl, .inl read⟩)
    | version => exact .inr (.inl ⟨rfl, .inr read⟩)
    | refused => exact .inl rfl
  | unread read input => exact .inl rfl
  | untold read input target =>
    obtain ⟨detail, rfl⟩ := Task.ofInputs_error target
    exact .inl rfl
  | unsettled read input target found settings => exact .inl rfl
  | ran begins => exact .inr (.inr ⟨_, _, _, _, begins⟩)

theorem run_code_interrupted_iff :
    ((run s words).run start).1.code = interruptedCode ↔
      ∃ a task c begun, Begins s words start a task c begun ∧
        c.Interrupted task a.runOptions begun := by
  constructor
  · intro hCode
    rcases (run_ended s words start).code_or_begins with
      hFailed | ⟨hOk, -⟩ | ⟨a, task, c, begun, begins⟩
    · exact absurd (hFailed.symm.trans hCode) (by decide)
    · exact absurd (hOk.symm.trans hCode) (by decide)
    · exact ⟨a, task, c, begun, begins, begins.code_interrupted_iff.mp hCode⟩
  · rintro ⟨a, task, c, begun, begins, interrupted⟩
    exact begins.code_interrupted_iff.mpr interrupted

theorem run_code_ok_iff :
    ((run s words).run start).1.code = okCode ↔
      Asks words ∨ ∃ a task c begun o, Begins s words start a task c begun ∧
        ((c.perform task a.runOptions).run begun).1 = .ok o ∧ o.result.success = true := by
  constructor
  · intro hCode
    rcases (run_ended s words start).code_or_begins with
      hFailed | ⟨-, asks⟩ | ⟨a, task, c, begun, begins⟩
    · exact absurd (hFailed.symm.trans hCode) (by decide)
    · exact .inl asks
    · obtain ⟨o, hRun, success⟩ := begins.code_ok_iff.mp hCode
      exact .inr ⟨a, task, c, begun, o, begins, hRun, success⟩
  · rintro (asks | ⟨a, task, c, begun, o, begins, hRun, success⟩)
    · exact run_code_of_asks asks
    · exact begins.code_ok_iff.mpr ⟨o, hRun, success⟩

theorem run_code_cases :
    let code := ((run s words).run start).1.code
    code = interruptedCode ∨ code = okCode ∨ code = failedCode := by
  rcases (run_ended s words start).code_or_begins with
      hFailed | ⟨hOk, -⟩ | ⟨a, task, c, begun, begins⟩
  · exact .inr (.inr hFailed)
  · exact .inr (.inl hOk)
  · exact begins.code_cases

/--
**The exit code of the program tells of its run.** It is 130 exactly if the program gets as far
as its run and the token is tripped before that run or in the course of it, and 0 exactly if
the run comes to a success or the words ask for no run; else it is 1.
-/
theorem run_code (s : Surroundings (StateM σ)) (words : List String) (start : σ) :
    let code := ((run s words).run start).1.code
    (code = 130 ↔ ∃ a task c begun, Begins s words start a task c begun ∧
      c.Interrupted task a.runOptions begun) ∧
    (code = 0 ↔ Asks words ∨ ∃ a task c begun o, Begins s words start a task c begun ∧
      ((c.perform task a.runOptions).run begun).1 = .ok o ∧ o.result.success = true) ∧
    (code ≠ 130 → code ≠ 0 → code = 1) := by
  intro code
  refine ⟨run_code_interrupted_iff, run_code_ok_iff, fun hNot hNotOk => ?_⟩
  have hCases : code = interruptedCode ∨ code = okCode ∨ code = failedCode := run_code_cases
  rcases hCases with hCode | hCode | hCode
  · exact absurd hCode hNot
  · exact absurd hCode hNotOk
  · exact hCode

end CommandLine

end Errand
