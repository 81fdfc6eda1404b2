import Errand.Machine.Git.Exchange

/-!
# Errand — looking at a repository

The commands of Git that change nothing, or only a setting or a reference.

* `revParse`, `symbolicRef`, `updateRef`, `forEachRef` — names and references.
* `log`, `show`     — commits.
* `status`, `diff`, `lsFiles` — files.
* `config`          — settings.
-/

namespace Errand.Machine.Git

open Work

-- ---------------------------------------------------------------------------
-- Names and references
-- ---------------------------------------------------------------------------

/-- The words for a name that means nothing. -/
def unknownRevision (name : String) : String :=
  "ambiguous argument '" ++ name ++ "': unknown revision or path not in the working tree.\n" ++
  "Use '--' to separate paths from revisions, like this:\n" ++
  "'git <command> [<revision>...] -- [<file>...]'"

/-- What a name is short for. -/
def abbreviation (name : String) : Work String := do
  let dir := (← read).repo.dir
  let now ← files
  if name = "HEAD" ∨ name = "@" then
    match symbolic? now dir "HEAD" with
    | some full => return shortName now dir full
    | none => return "HEAD"
  else
    match matching now dir name with
    | full :: _ =>
      match symbolic? now dir full with
      | some target => return shortName now dir target
      | none => return shortName now dir full
    | [] => return ""

/-- Prints what names mean. -/
def revParse (args : List String) : Work Unit := do
  let dir := (← read).repo.dir
  let abbreviates := args.contains "--abbrev-ref"
  let symbolic := args.contains "--symbolic-full-name"
  let quiet := args.contains "--quiet" || args.contains "-q"
  let verify := args.contains "--verify"
  let short := args.any fun a => a.startsWith "--short"
  if verify ∧ (args.filter fun a => !a.startsWith "-").length ≠ 1 then
    if quiet then quit 1
    fatal "Needed a single revision"
  let s ← read
  let here := s.process.directory
  for arg in args do
    match arg with
    | "--show-toplevel" => out (Path.text (← top))
    | "--git-dir" =>
      out (if some here = s.repo.top then ".git" else if here = dir then "." else Path.text dir)
    | "--absolute-git-dir" => out (Path.text dir)
    | "--is-inside-work-tree" => out (toString (← read).repo.top.isSome)
    | "--is-bare-repository" => out (toString (← read).repo.top.isNone)
    | "--git-path" => pure ()
    | "--show-prefix" =>
      let below := (← read).process.directory.drop (← top).length
      out (if below.isEmpty then "" else written below ++ "/")
    | name =>
      if !name.startsWith "-" ∨ name = "-" then
        match ← revision? name with
        | some id =>
          warnAmbiguous name
          if abbreviates then
            let short ← abbreviation name
            if !short.isEmpty then out short
          else if symbolic then
            let now ← files
            let full := if name = "HEAD" then symbolic? now dir "HEAD"
              else (matching now dir name).head?
            out (full.getD name)
          else if short then out (abbreviated id)
          else out (hexName id)
        | none =>
          if verify then
            if quiet then quit 1
            fatal "Needed a single revision"
          out name
          fatal (unknownRevision name)

/-- Prints or sets the reference that another one stands for. -/
def symbolicRef (args : List String) : Work Unit := do
  let o := Options.read "m" args
  let dir := (← read).repo.dir
  match o.operands with
  | [name] =>
    match symbolic? (← files) dir name with
    | some full =>
      let now ← files
      out (if o.has "short" then shortName now dir full else full)
    | none =>
      if o.has "q" ∨ o.has "quiet" then quit 1
      else fatal ("ref " ++ name ++ " is not a symbolic ref")
  | [name, target] => writeFile name ("ref: " ++ target ++ "\n")
  | _ => quit 129

/-- Sets or removes a reference. -/
def updateRef (args : List String) : Work Unit := do
  let o := Options.read "m" args
  match o.operands with
  | name :: rest =>
    if o.has "d" then dropReference name
    else
      match ← revision? (rest.headD "") with
      | some id =>
        if name = "HEAD" then advanceHead "" id else writeReference name name id
      | none => fatal (rest.headD "" ++ ": not a valid SHA1")
  | [] => quit 129

/-- A format with the parts of a reference put in. -/
def referenceText (fuel : Nat) (value : String → String) (cs : List Char) : String :=
  match fuel, cs with
  | 0, _ | _, [] => ""
  | fuel + 1, '%' :: '(' :: rest =>
    value (String.ofList (rest.takeWhile (· ≠ ')'))) ++
      referenceText fuel value ((rest.dropWhile (· ≠ ')')).drop 1)
  | fuel + 1, c :: rest => String.singleton c ++ referenceText fuel value rest

/-- Prints references by a format. -/
def forEachRef (args : List String) : Work Unit := do
  let o := Options.read "" args
  let dir := (← read).repo.dir
  let now ← files
  let s ← store
  let format := (o.value? "format").getD "%(objectname) commit\t%(refname)"
  let places := if o.operands.isEmpty then ["refs"] else o.operands
  for place in places do
    for (name, id) in referencesIn now dir place do
      let full := place ++ "/" ++ name
      let message := ((s.commit? id).map Commit.message).getD ""
      let value (field : String) : String := match field with
        | "refname" => full
        | "refname:short" => shortName now dir full
        | "objectname" => hexName id
        | "objectname:short" => abbreviated id
        | "subject" | "contents:subject" => subject message
        | "contents" => message
        | "HEAD" => if symbolic? now dir "HEAD" = some full then "*" else " "
        | _ => ""
      out (referenceText (format.length + 1) value format.toList)

-- ---------------------------------------------------------------------------
-- Commits
-- ---------------------------------------------------------------------------

/-- Who makes commits. -/
structure Author where
  name : String
  address : String

/-- The one who makes commits, by the variables of the process. -/
def author : Work Author := do
  let p := (← read).process
  let value (name : String) : String := (Programs.setting? p name).getD ""
  return ⟨value "GIT_AUTHOR_NAME", value "GIT_AUTHOR_EMAIL"⟩

/-- A format with the parts of a commit put in. -/
def commitText (a : Author) (fuel id : Nat) (c : Commit) (cs : List Char) : String :=
  match fuel, cs with
  | 0, _ | _, [] => ""
  | fuel + 1, '%' :: rest =>
    let (text, rest) := match rest with
      | 's' :: rest => (subject c.message, rest)
      | 'b' :: rest => (body c.message, rest)
      | 'B' :: rest => (c.message, rest)
      | 'H' :: rest => (hexName id, rest)
      | 'h' :: rest => (abbreviated id, rest)
      | 'P' :: rest => (String.intercalate " " (c.parents.map hexName), rest)
      | 'p' :: rest => (String.intercalate " " (c.parents.map abbreviated), rest)
      | 'a' :: 'n' :: rest | 'c' :: 'n' :: rest => (a.name, rest)
      | 'a' :: 'e' :: rest | 'c' :: 'e' :: rest => (a.address, rest)
      | 'n' :: rest => ("\n", rest)
      | '%' :: rest => ("%", rest)
      | rest => ("%", rest)
    text ++ commitText a fuel id c rest
  | fuel + 1, letter :: rest => String.singleton letter ++ commitText a fuel id c rest

/-- The lines that show a commit. -/
def commitLines (a : Author) (format : Option String) (oneLine : Bool) (id : Nat) (c : Commit) :
    String :=
  match format with
  | some text => commitText a (text.length + 1) id c text.toList
  | none =>
    if oneLine then abbreviated id ++ " " ++ subject c.message
    else
      let lines := (c.message.splitOn "\n").dropLast.map fun line => "    " ++ line
      "commit " ++ hexName id ++ "\nAuthor: " ++ a.name ++ " <" ++ a.address ++ ">\n\n" ++
        String.intercalate "\n" lines ++ "\n"

/-- The format that the options of a command ask for. -/
def formatOf (o : Options) : Option String :=
  ((o.value? "format").orElse fun _ => o.value? "pretty").map fun text =>
    if text.startsWith "format:" then (text.drop 7).toString
    else if text.startsWith "tformat:" then (text.drop 8).toString
    else text

/-- Options whose number follows a dash, put in the longer words. -/
def withLimit (args : List String) : List String :=
  args.map fun arg => match arg.toList with
    | '-' :: c :: cs =>
      if (c :: cs).all Char.isDigit then "--max-count=" ++ String.ofList (c :: cs) else arg
    | _ => arg

/-- Prints commits, the latest first. -/
def log (args : List String) : Work Unit := do
  let o := Options.read "n" (withLimit args)
  let s ← store
  let names := o.operands.takeWhile fun a => a ≠ "--"
  let dir := (← read).repo.dir
  let mut starts : List Nat := []
  for name in (if names.isEmpty ∧ !o.has "all" then ["HEAD"] else names) do
    match ← revision? name with
    | some id => starts := starts ++ [id]
    | none =>
      if name = "HEAD" then
        fatal ("your current branch '" ++ (headBranch? (← files) dir).getD "" ++
          "' does not have any commits yet")
      else fatal (unknownRevision name)
  if o.has "all" then
    starts := starts ++ (referencesIn (← files) dir "refs").map Prod.snd
  let firstParents (id : Nat) : List Nat :=
    (List.range (s.commits.size + 1)).foldl
      (fun (line : List Nat) _ => match line.getLast?.bind fun last =>
          (s.commit? last).bind fun c => c.parents.head? with
        | some parent => if line.contains parent then line else line ++ [parent]
        | none => line)
      [id]
  let reached := if o.has "first-parent" then (starts.flatMap firstParents).eraseDups
    else (starts.flatMap s.history).eraseDups
  let sorted := reached.mergeSort fun a b => decide (b ≤ a)
  let sorted := if o.has "merges" then
      sorted.filter fun id => ((s.commit? id).map fun c => decide (1 < c.parents.length)).getD false
    else if o.has "no-merges" then
      sorted.filter fun id => ((s.commit? id).map fun c => decide (c.parents.length ≤ 1)).getD false
    else sorted
  let limit := ((o.value? "max-count").orElse fun _ => o.value? "n").bind String.toNat?
  let sorted := match limit with
    | some n => sorted.take n
    | none => sorted
  let sorted := if o.has "reverse" then sorted.reverse else sorted
  for id in sorted do
    if let some c := s.commit? id then
      out (commitLines (← author) (formatOf o) (o.has "oneline") id c)

/-- Prints a commit, or a file of one. -/
def showObject (args : List String) : Work Unit := do
  let o := Options.read "n" (withLimit args)
  let s ← store
  for name in (if o.operands.isEmpty then ["HEAD"] else o.operands) do
    match name.splitOn ":" with
    | revision :: path :: _ =>
      let tree ← if revision.isEmpty then do
          pure (Index.tree (← index))
        else
          match ← revision? revision with
          | some id => pure (s.treeOf id)
          | none => fatal ("invalid object name '" ++ revision ++ "'.")
      match valueAt path tree with
      | some b => onMachine (say (← read).process b.content)
      | none => fatal ("path '" ++ path ++ "' does not exist in '" ++ revision ++ "'")
    | _ =>
      match ← revision? name with
      | some id =>
        if let some c := s.commit? id then
          out (commitLines (← author) (formatOf o) (o.has "oneline") id c)
      | none => fatal (unknownRevision name)

/-- Prints the number or the names of the commits that some commits follow. -/
def revList (args : List String) : Work Unit := do
  let o := Options.read "n" (withLimit args)
  let s ← store
  let mut reached : List Nat := []
  for name in o.operands do
    match ← revision? name with
    | some id => reached := reached ++ (s.history id).filter fun id => !reached.contains id
    | none => fatal ("bad revision '" ++ name ++ "'")
  if o.has "all" then
    let dir := (← read).repo.dir
    for (_, id) in referencesIn (← files) dir "refs" do
      reached := reached ++ (s.history id).filter fun id => !reached.contains id
  if o.has "count" then out (toString reached.length)
  else
    for id in reached do
      out (hexName id)

/-- Prints the best common ancestor of two commits, or whether one follows the other. -/
def mergeBase (args : List String) : Work Unit := do
  let o := Options.read "" args
  let s ← store
  match o.operands with
  | [a, b] =>
    match ← revision? a, ← revision? b with
    | some a, some b =>
      if o.has "is-ancestor" then
        if !s.follows b a then quit 1
      else
        match s.mergeBases a b with
        | id :: _ => out (hexName id)
        | [] => quit 1
    | _, _ => fatal ("Not a valid object name " ++ a)
  | _ => quit 129

-- ---------------------------------------------------------------------------
-- Files
-- ---------------------------------------------------------------------------

/-- Prints what differs from the index, and that from the commit. -/
def status (args : List String) : Work Unit := do
  let o := Options.read "u" args
  let _ ← top
  if o.has "porcelain" ∨ o.has "s" ∨ o.has "short" then
    if o.has "b" ∨ o.has "branch" then
      out ("## " ++ (headBranch? (← files) (← read).repo.dir).getD "HEAD (no branch)")
    let hides := o.value? "u" = some "no" || o.value? "untracked-files" = some "no"
    for line in ← statusLines do
      if !(hides ∧ line.startsWith "?? ") then out line
  else
    for line in ← longStatus do
      out line

/-- A file of one collection as it differs from that of another: a letter and its path. -/
def differences (before after : Tree) : List (String × String) :=
  let renames := renamedBetween before after
  (pathsOf [before.map Prod.fst, after.map Prod.fst]).filterMap fun path =>
    if renames.any fun r => r.1 = path then none
    else if renames.any fun r => r.2 = path then some ("R", path)
    else
      let letter := changeLetter (valueAt path before) (valueAt path after)
      if letter = " " then none else some (letter, path)

/-- Prints which files differ. -/
def diff (args : List String) : Work Unit := do
  let o := Options.read "" args
  let i ← index
  let work ← found
  let cached := o.has "cached" || o.has "staged"
  let revisions := (o.operands.takeWhile fun a => a ≠ "--").flatMap fun a => a.splitOn ".."
  let trees ← revisions.filterMapM fun name => do
    match ← revision? name with
    | some id => return some ((← store).treeOf id)
    | none => return none
  if trees.length < revisions.length then
    let bad := revisions.headD ""
    if !(← files).exists? ((← read).process.path bad) then fatal (unknownRevision bad)
  let kept := work.filter fun e => (valueAt e.1 i).isSome
  let head ← headTree
  let (before, after) := match trees with
    | a :: b :: _ => (a, b)
    | [a] => (a, if cached then Index.tree i else kept)
    | [] => if cached then (head, Index.tree i) else (Index.tree i, kept)
  let unmerged := Index.unmerged i
  let changed := differences before after
  let changed := if cached ∨ trees.isEmpty then
      (sortByPath ((changed.filter fun c => !unmerged.contains c.2).map (fun c => (c.2, c.1)) ++
        unmerged.map fun path => (path, "U"))).map fun (path, letter) => (letter, path)
    else changed
  if o.has "quiet" ∨ o.has "exit-code" then
    if !changed.isEmpty ∧ o.has "quiet" then quit 1
  for (letter, path) in changed do
    if o.has "name-only" then out (quotedPath false path)
    else if o.has "name-status" then out (letter ++ "\t" ++ quotedPath false path)
    else out ("diff --git a/" ++ path ++ " b/" ++ path)
  if o.has "exit-code" ∧ !changed.isEmpty then quit 1

/-- Prints the paths that are kept, or those that are not. -/
def lsFiles (args : List String) : Work Unit := do
  let o := Options.read "" args
  let i ← index
  if o.has "u" ∨ o.has "unmerged" then
    for path in Index.unmerged i do
      out path
  else if o.has "others" ∨ o.has "o" then
    let new ← if o.has "exclude-standard" then untracked
      else pure (((← found).map Prod.fst).filter fun path => (valueAt path i).isNone)
    for path in new do
      out (quotedPath false path)
  else
    for path in i.paths do
      out (quotedPath false path)

/-- Prints the paths of a commit. -/
def lsTree (args : List String) : Work Unit := do
  let o := Options.read "" args
  match ← revision? (o.operands.headD "HEAD") with
  | none => fatal ("Not a valid object name " ++ o.operands.headD "HEAD")
  | some id =>
    let paths := ((← store).treeOf id).map Prod.fst
    let shown := if o.has "r" then paths else (paths.map fun path =>
      (Path.names path).headD path).eraseDups
    for path in shown do
      out (quotedPath false path)

/-- Removes files that are not kept. -/
def clean (args : List String) : Work Unit := do
  let o := Options.read "e" args
  if !o.has "f" then
    fatal "clean.requireForce defaults to true and neither -i, -n, nor -f given; refusing to clean"
  let i ← index
  let shown := shownUntracked i (← untracked)
  let chosen := if o.has "d" then shown else shown.filter fun path => !path.endsWith "/"
  let root ← top
  for path in chosen do
    alter (·.remove (root ++ Path.names path))
    if !o.has "q" then out ("Removing " ++ path)

/-- Prints or sets settings. -/
def config (args : List String) : Work Unit := do
  let dir := (← read).repo.dir
  let modifiers := ["--global", "--local", "--get", "--add", "--replace-all", "--bool", "--get-all"]
  let words := args.filter fun a => !modifiers.contains a
  if args.contains "--global" then return
  match words with
  | "--unset" :: key :: _ | "--unset-all" :: key :: _ =>
    let (kind, part, name) := keyOf key
    if (setting? (← files) dir key).isNone then quit 5
    keepSettings fun s => !(s.area = kind && s.part = part && s.name = name)
  | ["--list"] | ["-l"] =>
    for s in settings (← files) dir do
      let part := if s.part.isEmpty then "" else "." ++ s.part
      out (s.area ++ part ++ "." ++ s.name ++ "=" ++ s.value)
  | [key] =>
    match setting? (← files) dir key with
    | some value => out value
    | none => quit 1
  | key :: value :: _ => putSetting key value
  | [] => quit 129

end Errand.Machine.Git
