import Errand.Pattern.Basic
import Errand.Pattern.Property
import Std.Data.HashSet

/-!
# Errand — matching patterns

The **leftmost-first** match: of all matches those that start first, and of
those the one that the order of alternatives and the greed of repetitions
prefer. A matcher gives all its ends in order of preference, each end once:
what follows a match depends on its end alone, so a second way to the same
end can never win.

* `Pattern.hits`  — the ends of an expression's matches at a place.
* `Pattern.find?` — the leftmost-first match in a text.
* `Match.group?`  — the text of a group.
-/

namespace Errand.Pattern

-- ---------------------------------------------------------------------------
-- Hits
-- ---------------------------------------------------------------------------

/-- Where groups matched, the latest first: an index, a start and an end. -/
abbrev Groups := List (Nat × Nat × Nat)

/-- The end of a match, and the groups met on the way. -/
structure Hit where
  stop : Nat
  groups : Groups
  deriving Inhabited

/-- The hits of which each is the first with its end. -/
def thin (hits : List Hit) : List Hit :=
  match hits with
  | [] => []
  | [h] => [h]
  | hits =>
    let step (state : Std.HashSet Nat × List Hit) (h : Hit) : Std.HashSet Nat × List Hit :=
      if state.1.contains h.stop then state else (state.1.insert h.stop, h :: state.2)
    (hits.foldl step (∅, [])).2.reverse

-- ---------------------------------------------------------------------------
-- Places
-- ---------------------------------------------------------------------------

/-- A character belongs to a word. -/
def belongsToWord (ascii : Bool) (c : Char) : Bool :=
  if ascii then asciiWordSet.has c else isWordChar c

/-- The character at a place belongs to a word. -/
def wordAt (ascii : Bool) (text : Array Char) (i : Nat) : Bool :=
  (text[i]?.map (belongsToWord ascii)).getD false

/-- The character before a place belongs to a word. -/
def wordBefore (ascii : Bool) (text : Array Char) (i : Nat) : Bool :=
  0 < i && wordAt ascii text (i - 1)

/-- A place lies so, with and without a character of a word before it and behind it. -/
def Boundary.holds (before after : Bool) : Boundary → Bool
  | .edge => before != after
  | .noEdge => before == after
  | .start => !before && after
  | .stop => before && !after
  | .startHalf => !before
  | .stopHalf => !after

/-- A condition on a place holds. A carriage return and the line feed behind it end one line. -/
def Place.holds (text : Array Char) (i : Nat) : Place → Bool
  | .textStart => i = 0
  | .textEnd => i = text.size
  | .lineStart returns =>
    i = 0 || text[i - 1]? = some '\n' ||
      (returns && text[i - 1]? = some '\r' && text[i]? ≠ some '\n')
  | .lineEnd returns =>
    i = text.size || (returns && text[i]? = some '\r') ||
      (text[i]? = some '\n' && !(returns && 0 < i && text[i - 1]? = some '\r'))
  | .word ascii b => b.holds (wordBefore ascii text i) (wordAt ascii text i)

-- ---------------------------------------------------------------------------
-- Repetition
-- ---------------------------------------------------------------------------

/-- How many characters from a place on belong to a set, up to a bound. -/
def runLength (set : CharSet) (most : Option Nat) (text : Array Char) (fuel i : Nat) : Nat :=
  match fuel with
  | 0 => 0
  | fuel + 1 =>
    if most = some 0 then 0
    else match text[i]? with
      | some c =>
        if set.has c then runLength set (most.map fun n => n - 1) text fuel (i + 1) + 1 else 0
      | none => 0

/-- The ends of a repeated single character: from `least` on, up to the run's length. -/
def runHits (least length : Nat) (greedy : Bool) (h : Hit) : List Hit :=
  let stops := (List.range (length + 1 - least)).map fun k => (⟨h.stop + least + k, h.groups⟩ : Hit)
  if length < least then [] else if greedy then stops.reverse else stops

/-- A point in the search of a repetition: after some copies, or before the next one. -/
inductive Point where
  | after (copies : Nat) (h : Hit)
  | next (copies : Nat) (h : Hit)
  | done (h : Hit)

/-- The bounds of a repetition and its preference for more copies. -/
structure Bounds where
  least : Nat
  most : Option Nat
  greedy : Bool

/-- The number of copies that matters: beyond the least of an unbounded repetition all are alike. -/
def Bounds.level (b : Bounds) (copies : Nat) : Nat :=
  match b.most with
  | some _ => copies
  | none => min copies (max b.least 1)

/-- The copy that comes next: the last one of an unbounded repetition is used over and over. -/
def Bounds.copy (b : Bounds) (copies : Nat) : Nat :=
  match b.most with
  | some _ => copies
  | none => min copies (max b.least 1 - 1)

/--
The search of a repetition, depth first in order of preference. A point that
was met before is not entered again: everything behind it has been found.
-/
def search (step : Hit → List Hit) (b : Bounds) (fuel : Nat) (todo : List Point)
    (seen entered : Std.HashSet (Nat × Nat)) (found : List Hit) : List Hit :=
  match fuel, todo with
  | 0, _ | _, [] => found.reverse
  | fuel + 1, .done h :: todo => search step b fuel todo seen entered (h :: found)
  | fuel + 1, .after copies h :: todo =>
    let key := (b.level copies, h.stop)
    if seen.contains key then search step b fuel todo seen entered found
    else
      let stop := if b.least ≤ copies then [Point.done h] else []
      let go := if b.most.all fun most => copies < most then [Point.next copies h] else []
      let points := if b.greedy then go ++ stop else stop ++ go
      search step b fuel (points ++ todo) (seen.insert key) entered found
  | fuel + 1, .next copies h :: todo =>
    let key := (b.copy copies, h.stop)
    if entered.contains key then search step b fuel todo seen entered found
    else
      let points := (step h).map fun h => Point.after (b.level (copies + 1)) h
      search step b fuel (points ++ todo) seen (entered.insert key) found

/-- Enough fuel to enter every point once for each way to it. -/
def searchFuel (b : Bounds) (length : Nat) : Nat :=
  (length + 2) * (length + 2) * (b.most.getD b.least + 2) * 4

-- ---------------------------------------------------------------------------
-- Matching
-- ---------------------------------------------------------------------------

/-- The ends of an expression's matches that start where a hit ends, by preference. -/
def hits (text : Array Char) : Pattern → Hit → List Hit
  | .empty, h => [h]
  | .one set, h =>
    match text[h.stop]? with
    | some c => if set.has c then [⟨h.stop + 1, h.groups⟩] else []
    | none => []
  | .place p, h => if p.holds text h.stop then [h] else []
  | .seq a b, h => thin ((hits text a h).flatMap (hits text b))
  | .alt a b, h => thin (hits text a h ++ hits text b h)
  | .group index p, h =>
    (hits text p h).map fun g => ⟨g.stop, (index, h.stop, g.stop) :: g.groups⟩
  | .many (.one set) least most greedy, h =>
    runHits least (runLength set most text (text.size - h.stop) h.stop) greedy h
  | .many p least most greedy, h =>
    let b : Bounds := ⟨least, most, greedy⟩
    thin (search (hits text p) b (searchFuel b text.size) [.after 0 h] ∅ ∅ [])

/-- A match in a text: its start, its end and its groups. -/
structure Match where
  start : Nat
  stop : Nat
  groups : Groups

/-- The preferred match at the first place from `start` on that has one. -/
def findFrom (p : Pattern) (text : Array Char) (fuel start : Nat) : Option Match :=
  match hits text p ⟨start, []⟩ with
  | h :: _ => some ⟨start, h.stop, h.groups⟩
  | [] =>
    match fuel with
    | 0 => none
    | fuel + 1 => findFrom p text fuel (start + 1)

/-- The leftmost-first match in a text. -/
def find? (p : Pattern) (text : Array Char) : Option Match := findFrom p text text.size 0

/-- The characters between two places. -/
def part (text : Array Char) (start stop : Nat) : String :=
  String.ofList (text.extract start stop).toList

/-- The text of a group, if it took part in the match. -/
def Match.group? (m : Match) (text : Array Char) (index : Nat) : Option String :=
  (m.groups.find? fun g => g.1 = index).map fun (_, start, stop) => part text start stop

/-- The text of the whole match. -/
def Match.whole (m : Match) (text : Array Char) : String := part text m.start m.stop

end Errand.Pattern
