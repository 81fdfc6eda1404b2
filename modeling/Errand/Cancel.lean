import Errand.RunError

/-!
# Errand — cancel tokens

A run is interrupted through a token that many hands may hold. A copy of a
token shares its flag, so tokens fall into **families**, and cancelling one
member cancels its family and no other.

* `Tokens`        — the tokens made so far, each by its family.
* `Tokens.create`, `Tokens.copy`, `Tokens.cancel` — the three things done to them.
* `Tokens.isCancelled` — whether a token's family has been cancelled.
* `Tokens.check` — the error that a run ends with once its token has been cancelled.
-/

namespace Errand

/-- Cancel tokens in the order they were made, and the families cancelled so far. -/
structure Tokens where
  /-- The family of each token. -/
  families : List Nat := []
  /-- How many families there are. -/
  familyCount : Nat := 0
  cancelled : List Nat := []
  deriving DecidableEq, Inhabited, Repr

namespace Tokens

/-- A token of a new family. -/
def create (t : Tokens) : Tokens :=
  { t with families := t.families ++ [t.familyCount], familyCount := t.familyCount + 1 }

/-- A copy of the token at an index, of the same family. -/
def copy (t : Tokens) (index : Nat) : Tokens :=
  match t.families[index]? with
  | some family => { t with families := t.families ++ [family] }
  | none => t

/-- Cancels the token at an index, and with it its family. -/
def cancel (t : Tokens) (index : Nat) : Tokens :=
  match t.families[index]? with
  | some family => { t with cancelled := family :: t.cancelled }
  | none => t

/-- The token at an index has been cancelled. -/
def isCancelled (t : Tokens) (index : Nat) : Bool :=
  match t.families[index]? with
  | some family => t.cancelled.contains family
  | none => false

/-- The run goes on unless the token at an index has been cancelled. -/
def check (t : Tokens) (index : Nat) : Except RunError Unit :=
  if t.isCancelled index then .error .interrupted else .ok ()

/-- What a holder of each token sees. -/
def states (t : Tokens) : List Bool := t.families.map fun family => t.cancelled.contains family

/-- A step in the life of some tokens. -/
inductive Step where
  | create
  | copy (index : Nat)
  | cancel (index : Nat)
  deriving DecidableEq, Inhabited, Repr

/-- The tokens after a step. -/
def step (t : Tokens) : Step → Tokens
  | .create => t.create
  | .copy i => t.copy i
  | .cancel i => t.cancel i

/-- What the holders see after each of some steps. -/
def history (t : Tokens) : List Step → List (List Bool)
  | [] => []
  | s :: rest => (t.step s).states :: history (t.step s) rest

end Tokens

end Errand
