import Errand.Number.Double

/-!
# Errand — settings files

The value type of TOML, and the tables that a document builds up. A table
remembers how it came about, because that decides how it may still grow.

* `Toml`              — the values.
* `Toml.Origin`       — how a table came about.
* `Toml.insertDotted` — a value put under a dotted key.
* `Toml.openTable`, `Toml.openRow` — the two kinds of headers.
-/

namespace Errand

/-- How a table came about. -/
inductive Toml.Origin where
  /-- By a header of its own, or as the document itself. -/
  | header
  /-- As a step on the way to another header's table. -/
  | implied
  /-- As a step of a dotted key. -/
  | dotted
  /-- Written between braces; such a table is complete. -/
  | inline
  deriving DecidableEq, Inhabited, Repr

/-- A value of a settings file. -/
inductive Toml where
  | string (s : String)
  | integer (n : Int)
  | real (d : Number.Double)
  | bool (b : Bool)
  /-- A date, a time or both. -/
  | moment
  | array (items : List Toml)
  | table (origin : Toml.Origin) (members : List (String × Toml))
  /-- The tables of a repeated header, the latest first; each is its members. -/
  | rows (tables : List (List (String × Toml)))
  deriving Inhabited

namespace Toml

/-- The members of a table, in the order in which they were written. -/
abbrev Members := List (String × Toml)

/-- The member of this name. -/
def member? (name : String) (members : Members) : Option Toml :=
  (members.find? fun entry => entry.1 = name).map Prod.snd

/-- Puts a value in the place of a member, or at the end. -/
def setMember (name : String) (value : Toml) : Members → Members
  | [] => [(name, value)]
  | (other, old) :: rest =>
    if other = name then (name, value) :: rest else (other, old) :: setMember name value rest

/-- Adds a member; a name may be used once only. -/
def addMember (name : String) (value : Toml) (members : Members) : Option Members :=
  match member? name members with
  | some _ => none
  | none => some (members ++ [(name, value)])

/-- The names of a key, the last one apart. -/
def splitLast (keys : List String) : Option (List String × String) :=
  keys.getLast?.map fun last => (keys.dropLast, last)

-- ---------------------------------------------------------------------------
-- Dotted keys
-- ---------------------------------------------------------------------------

/--
Puts a value under a dotted key. The tables on the way must come from dotted
keys or from headers further in, and the last of them from a dotted key.
-/
def insertPath (value : Toml) (last : String) (members : Members) :
    List String → Option Members
  | [] => addMember last value members
  | [name] =>
    match member? name members with
    | none => some (members ++ [(name, .table .dotted [(last, value)])])
    | some (.table .dotted inner) => do
      let inner ← addMember last value inner
      some (setMember name (.table .dotted inner) members)
    | some _ => none
  | name :: next :: path =>
    match member? name members with
    | none => do
      let inner ← insertPath value last [] (next :: path)
      some (members ++ [(name, .table .dotted inner)])
    | some (.table origin inner) => do
      if origin = .header ∨ origin = .inline then none
      let inner ← insertPath value last inner (next :: path)
      some (setMember name (.table origin inner) members)
    | some (.rows (inner :: others)) => do
      let inner ← insertPath value last inner (next :: path)
      some (setMember name (.rows (inner :: others)) members)
    | some _ => none

/-- Puts a value under the names of a key. -/
def insertDotted (keys : List String) (value : Toml) (members : Members) : Option Members := do
  let (path, last) ← splitLast keys
  insertPath value last members path

-- ---------------------------------------------------------------------------
-- Headers
-- ---------------------------------------------------------------------------

/-- Changes the table at the end of a path of headers, which may pass through implied ones. -/
def alter (change : Members → Option Members) (members : Members) :
    List String → Option Members
  | [] => change members
  | name :: path =>
    match member? name members with
    | none => do
      let inner ← alter change [] path
      some (members ++ [(name, .table .implied inner)])
    | some (.table origin inner) => do
      if origin = .inline then none
      let inner ← alter change inner path
      some (setMember name (.table origin inner) members)
    | some (.rows (inner :: others)) => do
      let inner ← alter change inner path
      some (setMember name (.rows (inner :: others)) members)
    | some _ => none

/-- Opens the table of a header: it is new, or so far only implied. -/
def openTable (keys : List String) (members : Members) : Option Members := do
  let (path, last) ← splitLast keys
  alter (fun inner =>
    match member? last inner with
    | none => some (inner ++ [(last, .table .header [])])
    | some (.table .implied found) => some (setMember last (.table .header found) inner)
    | some _ => none) members path

/-- Opens one more table of a repeated header. -/
def openRow (keys : List String) (members : Members) : Option Members := do
  let (path, last) ← splitLast keys
  alter (fun inner =>
    match member? last inner with
    | none => some (inner ++ [(last, .rows [[]])])
    | some (.rows tables) => some (setMember last (.rows ([] :: tables)) inner)
    | some _ => none) members path

end Toml

end Errand
