import Errand.Template.Operate

/-!
# Errand — the arguments of a call

A call passes its values by place, and behind them a record of those passed
under names. What is undefined or nothing counts as not given wherever an
argument may be left out, and a switch has to be a truth value.

* `Arguments`         — values by place and values by name.
* `Arguments.ofList`  — the arguments that some values are.
* `Arguments.optional`, `flag`, `name` — an argument that may be left out.
-/

namespace Errand.Template

/-- The arguments of a call. -/
structure Arguments where
  placed : List Value
  named : List (Value × Value)

namespace Arguments

/-- The arguments that some values are: a record of named ones is the last, if there is one. -/
def ofList (vs : List Value) : Arguments :=
  match vs.getLast? with
  | some (.record members true) => ⟨vs.dropLast, members⟩
  | _ => ⟨vs, []⟩

/-- A value that is given: neither undefined nor nothing. -/
def given? : Option Value → Option Value
  | some .undefined | some .nothing | none => none
  | some v => some v

/-- The argument of a name, if it is given. -/
def named? (a : Arguments) (name : String) : Option Value :=
  given? (Value.memberNamed? name a.named)

/-- A value that may be left out, read if it is given; what cannot be read is an error. -/
def optional {α : Type} (read : Value → Option α) (v : Option Value) : Option (Option α) :=
  match given? v with
  | none => some none
  | some v => (read v).map some

/-- A truth value. -/
def truth? : Value → Option Bool
  | .truth b => some b
  | _ => none

/-- The switch of a name, which is off if it is not given. -/
def flag (a : Arguments) (name : String) : Option Bool :=
  (optional truth? (a.named? name)).map fun found => found.getD false

/-- The text of a name, if it is given. -/
def name (a : Arguments) (name : String) : Option (Option String) :=
  optional Value.ownText? (a.named? name)

/-- No argument has a name but these. -/
def onlyNamed (a : Arguments) (names : List String) : Bool :=
  a.named.all fun entry => names.any fun n => Value.equal entry.1 (Value.ofText n)

end Arguments

end Errand.Template
