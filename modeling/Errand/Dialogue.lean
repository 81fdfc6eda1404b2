import Errand.Request

/-!
# Errand — a run as a dialogue

A run is a tree of questions: what is asked next depends on what was answered.
Because it is data, the same run can be played against real programs, against
a script, or against every script at once.

* `Dialogue`        — the tree, a monad.
* `Dialogue.play`   — its course when the answers come from a monad.
* `Dialogue.run`    — its course against answers that depend on a state, with
  the trace of everything asked and answered.
-/

namespace Errand

/-- A computation that asks its way to a value. -/
inductive Dialogue (α : Type) : Type where
  | done (value : α)
  | ask (request : Request) (next : Answer request → Dialogue α)

namespace Dialogue

variable {α β σ : Type}

/-- Goes on with `f` where `d` ends. -/
def bind (d : Dialogue α) (f : α → Dialogue β) : Dialogue β :=
  match d with
  | .done a => f a
  | .ask r next => .ask r fun answer => (next answer).bind f

instance : Monad Dialogue where
  pure := .done
  bind := bind

@[simp]
theorem done_bind (a : α) (f : α → Dialogue β) : (Dialogue.done a >>= f) = f a := rfl

@[simp]
theorem ask_bind (r : Request) (next : Answer r → Dialogue α) (f : α → Dialogue β) :
    (Dialogue.ask r next >>= f) = .ask r fun answer => next answer >>= f := rfl

/-- The course of a dialogue whose answers come from a monad. -/
def play {m : Type → Type} [Monad m] (answer : (r : Request) → m (Answer r)) :
    Dialogue α → m α
  | .done a => pure a
  | .ask r next => do
    let a ← answer r
    (next a).play answer

/-- A question and the answer it got. -/
structure Exchange where
  request : Request
  answer : Answer request

/-- A script of answers: each may depend on all that went before, through a state. -/
abbrev Script (σ : Type) := (r : Request) → σ → Answer r × σ

/-- The course of a dialogue against a script: its value, the trace, and the last state. -/
def run (script : Script σ) (d : Dialogue α) (s : σ) : α × List Exchange × σ :=
  match d with
  | .done a => (a, [], s)
  | .ask r next =>
    let (answer, s) := script r s
    let (a, trace, s) := (next answer).run script s
    (a, ⟨r, answer⟩ :: trace, s)

end Dialogue

end Errand
