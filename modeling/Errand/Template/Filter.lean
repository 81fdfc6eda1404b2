import Errand.Number.Notation
import Errand.Template.Test
import Errand.Text.Letters

/-!
# Errand — the filters of a template

Filters make a value of another, by their names and with further arguments.
An unknown filter, an argument of the wrong kind and one too many give nothing.

* `Value.filter` — a filter applied to a value.
-/

namespace Errand.Template

open Errand.Number (Double)

namespace Value

-- ---------------------------------------------------------------------------
-- Texts
-- ---------------------------------------------------------------------------

/-- White space or ASCII punctuation, after which a word starts. -/
def separatesWords (c : Char) : Bool :=
  Text.isSpace c || (0x21 ≤ c.toNat && c.toNat ≤ 0x7E && !c.isAlphanum)

/-- Every word with a capital first letter and small letters after it. -/
def titleChars (atStart : Bool) : List Char → List Char
  | [] => []
  | c :: rest =>
    if separatesWords c then c :: titleChars true rest
    else (if atStart then Text.upperChar c else Text.lowerChar c) ++ titleChars false rest

/-- The text with a capital first letter and small letters after it. -/
def capitalized (s : String) : String :=
  match s.toList with
  | [] => ""
  | c :: rest => String.ofList (Text.upperChar c) ++ Text.lowercase (String.ofList rest)

/-- The text with every occurrence of `old` replaced; an empty `old` occurs everywhere. -/
def replaceChars (fuel : Nat) (old new : List Char) (cs : List Char) : List Char :=
  match fuel, cs with
  | 0, cs => cs
  | _ + 1, [] => if old.isEmpty then new else []
  | fuel + 1, c :: rest =>
    if old.isEmpty then new ++ c :: replaceChars fuel old new rest
    else if old.isPrefixOf (c :: rest) then
      new ++ replaceChars fuel old new ((c :: rest).drop old.length)
    else c :: replaceChars fuel old new rest

/-- The text with every occurrence of a text replaced. -/
def replaced (s old new : String) : String :=
  let cs := s.toList
  String.ofList (replaceChars (cs.length + 1) old.toList new.toList cs)

/-- The text without the characters of a set at its ends. -/
def trimSet (set : List Char) (s : String) : String :=
  let front (cs : List Char) := cs.dropWhile set.contains
  String.ofList (front (front s.toList).reverse).reverse

/-- The pieces between the occurrences of a text that is not empty. -/
def splitAtText (fuel : Nat) (mark : List Char) (read : List Char) (cs : List Char) :
    List (List Char) :=
  match fuel, cs with
  | 0, _ | _, [] => [read.reverse ++ cs]
  | fuel + 1, c :: rest =>
    if mark.isPrefixOf (c :: rest) then
      read.reverse :: splitAtText fuel mark [] ((c :: rest).drop mark.length)
    else splitAtText fuel mark (c :: read) rest

/-- The pieces between the occurrences of a text, which if empty occurs everywhere. -/
def piecesBetween (mark cs : List Char) : List (List Char) :=
  if mark.isEmpty then [] :: (cs.map fun c => [c]) ++ [[]]
  else splitAtText (cs.length + 1) mark [] cs

/-- At most so many pieces, the last of which holds what is left. -/
def atMostPieces (limit : Nat) (mark : List Char) (pieces : List (List Char)) :
    List (List Char) :=
  if pieces.length ≤ limit then pieces
  else
    pieces.take (limit - 1) ++
      [List.intercalate mark (pieces.drop (limit - 1))]

/-- At most so many pieces between characters of white space. -/
def spacePieces (limit : Nat) (cs : List Char) : List (List Char) :=
  match limit with
  | 0 | 1 => [cs]
  | limit + 1 =>
    match cs.span fun c => !Text.isSpace c with
    | (piece, _ :: rest) => piece :: spacePieces limit rest
    | (piece, []) => [piece]

/-- The pieces of a text. -/
def splitText (s : String) (mark : Option String) (limit : Option Int) : List Value :=
  let cs := s.toList
  let limit := (limit.filter fun n => 0 ≤ n).map fun n => n.toNat + 1
  let pieces : List (List Char) := match mark, limit with
    | none, none => (Text.splitOn Text.isSpace cs).filter fun piece => !piece.isEmpty
    | some mark, none => piecesBetween mark.toList cs
    | none, some limit => spacePieces limit cs
    | some mark, some limit => atMostPieces limit mark.toList (piecesBetween mark.toList cs)
  pieces.map fun piece => ofText (String.ofList piece)

/-- A line without the return that stands before its break. -/
def dropReturn (line : List Char) : List Char :=
  match line.reverse with
  | '\r' :: rest => rest.reverse
  | _ => line

/-- The lines of a text; a break at the end starts no line. -/
def linesOf (s : String) : List String :=
  match (Text.splitOn (· = '\n') s.toList).reverse with
  | [] => []
  | last :: before =>
    let whole := before.reverse.map fun line => String.ofList (dropReturn line)
    if last.isEmpty then whole else whole ++ [String.ofList last]

/-- The text without one line break at its end. -/
def withoutLastBreak (cs : List Char) : List Char :=
  let reversed := match cs.reverse with
    | '\n' :: rest => rest
    | reversed => reversed
  match reversed with
  | '\r' :: rest => rest.reverse
  | reversed => reversed.reverse

/-- The lines of a text behind a margin. -/
def indented (width : Nat) (first blank : Bool) (s : String) : String :=
  let margin := List.replicate width ' '
  let line (cs : List Char) : List Char :=
    if cs.isEmpty then (if blank then margin else []) else margin ++ cs
  let lines := match Text.splitOn (· = '\n') (withoutLastBreak s.toList) with
    | [] => []
    | head :: rest => (if first then line head else head) :: rest.map line
  String.ofList (withoutLastBreak (lines.flatMap fun cs => cs ++ ['\n']))

/-- The texts of some values with a text between them, which follows nothing empty. -/
def joined (mark : String) (items : List Value) : String :=
  items.foldl (fun s v => (if s.isEmpty then s else s ++ mark) ++ v.print) ""

-- ---------------------------------------------------------------------------
-- Numbers
-- ---------------------------------------------------------------------------

/-- The whole part of a double, kept within 128 bits. -/
def wholePart (d : Double) : Int :=
  let bound : Int := Nat.pow 2 127
  if d.isNaN then 0
  else
    let n : Int := (d.scaled / Double.unitsPerOne : Nat)
    let n := if d.isInfinite then bound else n
    if d.isNegative then max (-bound) (-n) else min (bound - 1) n

/-- A value as a whole number. -/
def toWhole? : Value → Option Value
  | .undefined | .nothing => some (.whole 0)
  | .truth b => some (.whole b.toNat)
  | .whole n => some (.whole n)
  | .real d => some (.whole (wholePart d))
  | .text s _ =>
    match (Number.integer? s.toList).filter fits128 with
    | some n => some (.whole n)
    | none => (Double.ofText? s.toList).map fun d => .whole (wholePart d)
  | _ => none

/-- A value as a double. -/
def toReal? : Value → Option Value
  | .undefined | .nothing => some (.real (Double.ofInt 0))
  | .text s _ => (Double.ofText? s.toList).map .real
  | v => v.nearestDouble?.map .real

/-- The magnitude of a number. -/
def absolute? : Value → Option Value
  | .whole n => if n.natAbs < Nat.pow 2 127 ∨ 0 ≤ n then some (.whole n.natAbs) else none
  | .real d => some (.real d.absolute)
  | _ => none

/-- A number of places, which has 32 bits. -/
def places? (v : Value) : Option Int :=
  v.integer?.filter fun n => -(Nat.pow 2 31 : Int) ≤ n ∧ n < (Nat.pow 2 31 : Int)

/-- A number rounded to some places after the point. -/
def rounded? (places : Int) : Value → Option Value
  | .whole n => some (.whole n)
  | .real d =>
    let scale := (Double.ofInt 10).toTheWhole places
    some (.real ((scale.times d).rounded.dividedBy scale))
  | _ => none

-- ---------------------------------------------------------------------------
-- Lists
-- ---------------------------------------------------------------------------

/-- A text in small letters of ASCII; other values are left alone. -/
def withoutCase (caseMatters : Bool) : Value → Value
  | .text s safe =>
    if caseMatters then .text s safe
    else .text (String.ofList (s.toList.map Text.lowerAscii)) safe
  | v => v

/-- The order of two values, in which case may not matter. -/
def orderBut (caseMatters : Bool) (a b : Value) : Ordering :=
  match a, b with
  | .text _ _, .text _ _ => order (a.withoutCase caseMatters) (b.withoutCase caseMatters)
  | a, b => order a b

/-- Some values in order; equal ones stay as they were. -/
def sortBy {α : Type} (compare : α → α → Ordering) (xs : List α) : List α :=
  xs.mergeSort fun a b => compare a b != .gt

/-- The order by several keys, the first that differs counting. -/
def orderKeys (caseMatters : Bool) : List Value → List Value → Ordering
  | a :: as, b :: bs => (orderBut caseMatters a b).then (orderKeys caseMatters as bs)
  | _, _ => .eq

/-- The parts of a value at the ends of several paths, with commas between the paths. -/
def keysOf? (paths : String) (v : Value) : Option (List Value) :=
  ((Text.splitOn (· = ',') paths.toList).map fun path => Text.trim (String.ofList path)).mapM
    v.follow

/-- Values sorted by the parts at the ends of paths. -/
def sortByPaths (caseMatters : Bool) (paths : String) (items : List Value) : List Value :=
  sortBy (fun a b =>
    match keysOf? paths a, keysOf? paths b with
    | some ks, some ls => orderKeys caseMatters ks ls
    | _, _ => .eq) items

/-- A sorted list of some values. -/
def sorted? (v : Value) (a : Arguments) : Option Value := do
  let items ← v.items?
  let caseMatters ← a.flag "case_sensitive"
  let paths ← a.name "attribute"
  let reversed ← a.flag "reverse"
  let found := match paths with
    | some paths => sortByPaths caseMatters paths items
    | none => sortBy (orderBut caseMatters) items
  if a.placed.isEmpty ∧ a.onlyNamed ["case_sensitive", "attribute", "reverse"] then
    some (.list (if reversed then found.reverse else found))
  else none

/-- The members of a record in order, as pairs. -/
def sortedMembers? (v : Value) (a : Arguments) : Option Value := do
  let members ← v.members?
  let byKey ← match a.named? "by" with
    | none => some true
    | some (.text "key" _) => some true
    | some (.text "value" _) => some false
    | some _ => none
  let caseMatters ← a.flag "case_sensitive"
  let reversed ← a.flag "reverse"
  let part (entry : Value × Value) := if byKey then entry.1 else entry.2
  let found := sortBy (fun x y => orderBut caseMatters (part x) (part y)) members
  let pairs := (if reversed then found.reverse else found).map fun (k, w) => .list [k, w]
  if a.placed.isEmpty ∧ a.onlyNamed ["by", "case_sensitive", "reverse"] then some (.list pairs)
  else none

/-- The least of some values, the first of several. -/
def least (items : List Value) : Value :=
  match items with
  | [] => .undefined
  | v :: rest => rest.foldl (fun best v => if isBefore v best then v else best) v

/-- The greatest of some values, the last of several. -/
def greatest (items : List Value) : Value :=
  match items with
  | [] => .undefined
  | v :: rest => rest.foldl (fun best v => if isBefore v best then best else v) v

/-- The values in other order; what is undefined or nothing stays. -/
def reversed? : Value → Option Value
  | .undefined => some .undefined
  | .nothing => some .nothing
  | .text s _ => some (ofText (String.ofList s.toList.reverse))
  | v => do
    if v.kind = .truth ∨ v.kind = .number ∨ v.kind = .plain then none
    let items ← v.items?
    some (.series items.reverse true)

/-- Some items in batches of a size, the last of which may be filled up. -/
def batches (fuel count : Nat) (filler : Option Value) (items : List Value) : List Value :=
  match fuel, items with
  | 0, _ | _, [] => []
  | fuel + 1, items =>
    let batch := items.take count
    let missing := match filler with
      | some v => List.replicate (count - batch.length) v
      | none => []
    .list (batch ++ missing) :: batches fuel count filler (items.drop count)

/-- Some items in so many slices; the later ones may be filled up to the size of the first. -/
def slices (count : Nat) (filler : Option Value) (items : List Value) : List Value :=
  let size := items.length / count
  let longer := items.length % count
  (List.range count).map fun i =>
    let start := i * size + min i longer
    let stop := (i + 1) * size + min (i + 1) longer
    let part := (items.drop start).take (stop - start)
    .list (match filler with
      | some v => if longer ≤ i then part ++ [v] else part
      | none => part)

/-- The sum of some numbers. -/
def total (items : List Value) : Option Value :=
  items.foldlM (fun sum v =>
    match v with
    | .undefined => some sum
    | v => if v.kind = .number then add sum v else none) (.whole 0)

/-- The runs of neighbours with one key, each with its key. -/
def groups (caseMatters : Bool) (keyOf : Value → Value) : List Value → List (Value × List Value)
  | [] => []
  | v :: rest =>
    let key := keyOf v
    match groups caseMatters keyOf rest with
    | (next, items) :: more =>
      if orderBut caseMatters key next = .eq then (next, v :: items) :: more
      else (key, [v]) :: (next, items) :: more
    | [] => [(key, [v])]

/-- Some values in groups by the part at the end of a path. -/
def grouped? (v : Value) (a : Arguments) : Option Value := do
  let default := (a.named? "default").getD .undefined
  let caseMatters ← a.flag "case_sensitive"
  let (path, allowed) ← match a.placed with
    | [] => (a.named? "attribute").bind ownText? |>.map fun path =>
        (path, ["default", "case_sensitive", "attribute"])
    | [path] => path.ownText?.map fun path => (path, ["default", "case_sensitive"])
    | _ => none
  let items ← v.items?
  let keyOf (item : Value) := item.followOr path default
  let found := sortBy (fun x y => orderBut caseMatters (keyOf x) (keyOf y)) items
  let pairs := (groups caseMatters keyOf found).map fun (key, items) => .group key (.list items)
  if a.onlyNamed allowed then some (.list pairs) else none

/-- Some values without those that are equal to one before. -/
def distinct (keyOf : Value → Value) (seen : List Value) : List Value → List Value
  | [] => []
  | v :: rest =>
    let key := keyOf v
    if seen.any fun other => order other key = .eq then distinct keyOf seen rest
    else v :: distinct keyOf (key :: seen) rest

/-- Some values without those that are equal to one before, in which case may not matter. -/
def unique? (v : Value) (a : Arguments) : Option Value := do
  let caseMatters ← a.flag "case_sensitive"
  let path ← a.name "attribute"
  let items ← v.items?
  let keyOf (item : Value) : Value :=
    let part := match path with
      | some path => item.followOr path .undefined
      | none => item
    match part with
    | .text s _ => ofText (if caseMatters then s else Text.lowercase s)
    | part => part
  if a.placed.isEmpty ∧ a.onlyNamed ["case_sensitive", "attribute"] then
    some (.list (distinct keyOf [] items))
  else none

/-- Several records as one, or several lists one after the other. -/
def chained? (vs : List Value) : Option Value :=
  match vs.mapM members? with
  | some records => some (.record (sortMembers records.flatten) false)
  | none => (vs.mapM listed?).map fun lists => .series lists.flatten (vs.all isSized)

/-- The first items of several lists, then the second ones, until one list ends. -/
def zipped (fuel : Nat) (lists : List (List Value)) : List Value :=
  match fuel with
  | 0 => []
  | fuel + 1 =>
    match lists.mapM List.head? with
    | some heads => .list heads :: zipped fuel (lists.map List.tail)
    | none => []

/-- The first item or character. -/
def first? (v : Value) : Option Value :=
  match v.kind with
  | .text | .list | .series | .record => v.items?.map fun items => items.headD .undefined
  | _ => none

/-- The last item or character. -/
def last? (v : Value) : Option Value :=
  match v.kind with
  | .text | .list | .series => v.items?.map fun items => items.getLastD .undefined
  | _ => none

-- ---------------------------------------------------------------------------
-- Filters by name
-- ---------------------------------------------------------------------------

/-- A value unless it is missing; with the switch on, unless it does not count as true. -/
def orDefault (v : Value) (args : List Value) : Option Value := do
  let other := (Arguments.given? args[0]?).getD (ofText "")
  let lax ← Arguments.optional Arguments.truth? args[1]?
  if 2 < args.length then none
  else match v with
    | .undefined => some other
    | v => some (if lax.getD false && !v.isTrue then other else v)

/-- A filter that takes nothing but the value. -/
def filterAlone? (name : String) (v : Value) : Option Value :=
  match name with
  | "safe" => v.textOf?.map fun s => .text s true
  | "escape" | "e" => some (.text v.printEscaped true)
  | "upper" => v.textOf?.map fun s => ofText (Text.uppercase s)
  | "lower" => v.textOf?.map fun s => ofText (Text.lowercase s)
  | "title" => v.textOf?.map fun s => ofText (String.ofList (titleChars true s.toList))
  | "capitalize" => v.textOf?.map fun s => ofText (capitalized s)
  | "trim" => v.textOf?.map fun s => ofText (Text.trim s)
  | "lines" => v.textOf?.map fun s => .list ((linesOf s).map ofText)
  | "length" | "count" => v.length?.map ofNat
  | "items" => v.members?.map fun members => .list (members.map fun (k, w) => .list [k, w])
  | "reverse" => v.reversed?
  | "abs" => v.absolute?
  | "int" => v.toWhole?
  | "float" => v.toReal?
  | "first" => v.first?
  | "last" => v.last?
  | "min" => v.items?.map least
  | "max" => v.items?.map greatest
  | "list" => v.items?.map .list
  | "string" => some (if v.kind = .text then v else ofText v.print)
  | "bool" => some (.truth v.isTrue)
  | "sum" => v.items?.bind total
  | "pprint" => some (ofText (v.spread ""))
  | _ => none

/-- A filter that takes further values. -/
def filterWith? (name : String) (v : Value) (args : List Value) : Option Value :=
  let a := Arguments.ofList args
  match name, args with
  | "replace", [old, new] => do
    let s ← v.textOf?
    let old ← old.textOf?
    let new ← new.textOf?
    some (ofText (replaced s old new))
  | "trim", [set] => do
    let s ← v.textOf?
    let set ← Arguments.optional textOf? (some set)
    some (ofText (match set with
      | some set => trimSet set.toList s
      | none => Text.trim s))
  | "join", args => do
    if 1 < args.length then none
    let mark ← Arguments.optional textOf? args[0]?
    let items ← v.items?
    some (ofText (joined (mark.getD "") items))
  | "split", args => do
    if 2 < args.length then none
    let s ← v.textOf?
    let mark ← Arguments.optional textOf? args[0]?
    let limit ← Arguments.optional position? args[1]?
    some (.series (splitText s mark limit) false)
  | "default", args | "d", args => v.orDefault args
  | "round", args => do
    if 1 < args.length then none
    let places ← Arguments.optional places? args[0]?
    v.rounded? (places.getD 0)
  | "attr", [key] => v.index key
  | "sort", _ => v.sorted? a
  | "dictsort", _ => v.sortedMembers? a
  | "groupby", _ => v.grouped? a
  | "unique", _ => v.unique? a
  | "batch", count :: filler => do
    if 1 < filler.length then none
    let count ← count.size?
    let items ← v.items?
    if count = 0 then none
    else some (.list (batches items.length count (Arguments.given? filler.head?) items))
  | "slice", count :: filler => do
    if 1 < filler.length then none
    let count ← count.size?
    let items ← v.items?
    if count = 0 ∨ maxRepeated < count then none
    else some (.list (slices count (Arguments.given? filler.head?) items))
  | "indent", width :: switches => do
    if 2 < switches.length then none
    let s ← v.textOf?
    let width ← width.size?
    let first ← Arguments.optional Arguments.truth? switches[0]?
    let blank ← Arguments.optional Arguments.truth? switches[1]?
    if maxRepeated < width then none
    else some (ofText (indented width (first.getD false) (blank.getD false) s))
  | "chain", args => chained? (v :: args)
  | "zip", args => do
    let lists ← (v :: args).mapM items?
    some (.list (zipped ((lists.map List.length).foldl max 0) lists))
  | name, [] => v.filterAlone? name
  | _, _ => none

/-- The items that pass a test, or count as true if no test is named. -/
def selected? (v : Value) (wanted : Bool) (path : Option String) (args : List Value) :
    Option Value := do
  let name ← Arguments.optional textOf? args.head?
  let known := match name with
    | some name => testNames.contains name
    | none => true
  let items ← v.items?
  if !known then none
  let kept ← items.filterM fun item => do
    let part ← match path with
      | some path => item.follow path
      | none => some item
    let passed ← match name with
      | some name => part.test name args.tail
      | none => some part.isTrue
    some (passed == wanted)
  some (.list kept)

/-- The parts of some items at the end of a path, or under a key. -/
def parts? (v : Value) (key : Value) (a : Arguments) : Option Value := do
  let default := (memberNamed? "default" a.named).getD .undefined
  let items ← v.items?
  if !a.placed.isEmpty ∨ !a.onlyNamed ["attribute", "default"] then none
  let found ← items.mapM fun item =>
    let part := match key.ownText? with
      | some path => item.follow path
      | none => item.index key
    match part, default with
    | some .undefined, default => some default
    | some part, _ => some part
    | none, .undefined => none
    | none, default => some default
  some (.list found)

/-- A filter applied to a value; those that apply another to each item use it in turn. -/
def filterDeep (depth : Nat) (name : String) (v : Value) (args : List Value) : Option Value :=
  match depth with
  | 0 => none
  | depth + 1 =>
    match name, args with
    | "select", args => v.selected? true none args
    | "reject", args => v.selected? false none args
    | "selectattr", path :: args => do
      let path ← path.textOf?
      v.selected? true (some path) args
    | "rejectattr", path :: args => do
      let path ← path.textOf?
      v.selected? false (some path) args
    | "map", args => do
      let a := Arguments.ofList args
      match a.named? "attribute" with
      | some key => v.parts? key a
      | none =>
        let name ← a.placed.head?.bind ownText?
        let items ← v.items?
        if !filterNames.contains name then none
        let found ← items.mapM fun item => filterDeep depth name item a.placed.tail
        some (.list found)
    | name, args => v.filterWith? name args

/-- A filter applied to a value; an unknown one has no result. -/
def filter (name : String) (v : Value) (args : List Value) : Option Value :=
  filterDeep (args.length + 1) name v args

end Value

end Errand.Template
