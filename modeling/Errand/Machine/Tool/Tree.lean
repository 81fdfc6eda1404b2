import Errand.Machine.Tool.Streams

/-!
# Errand — programs that change the tree of files

The small programs that make, remove, move and list files.

* `rm`, `rmdir`, `mkdir`, `touch`, `chmod` — one path at a time.
* `cp`, `mv`                               — from one place to another.
* `ls`                                     — what is there.
-/

namespace Errand.Machine.Tool

-- ---------------------------------------------------------------------------
-- One path at a time
-- ---------------------------------------------------------------------------

/-- Does something for each operand, and tells whether all went well. -/
def forEachOperand (operands : List String) (body : String → M Bool) : M Bool :=
  operands.foldlM (fun allWell operand => return (← body operand) && allWell) true

/-- A complaint that no operand was given, and the end of the program. -/
def missingOperand (p : Process) (name : String) : M ExitStatus := do
  report p name ("missing operand\nTry " ++ quoted (name ++ " --help") ++ " for more information.")
  return .exited 1

/-- Why a path that leads nowhere does so. -/
def absence (files : Files) (path : Path) : String :=
  if passesFile files path then "Not a directory" else "No such file or directory"

/-- Removes files and, if asked to, directories. -/
def rm : Tool := fun p args => do
  let o := Options.read "" args
  let force := o.has "f" || o.has "force"
  let whole := o.has "r" || o.has "R" || o.has "recursive"
  if o.operands.isEmpty then
    if force then return success else return ← missingOperand p "rm"
  let allWell ← forEachOperand o.operands fun name => do
    let files := (← get).files
    let path := p.path name
    let fault (reason : String) : M Bool := do
      report p "rm" ("cannot remove " ++ quoted name ++ ": " ++ reason)
      return false
    match if name.isEmpty then none else files.find? path with
    | none => if force then return true else fault (absence files path)
    | some (.file _ _) =>
      alterFiles (·.remove path)
      return true
    | some .directory =>
      if whole then
        if path.isEmpty then
          report p "rm" ("it is dangerous to operate recursively on " ++ quoted name)
          report p "rm" "use --no-preserve-root to override this failsafe"
          return false
        if [".", ".."].contains (lastName name) then
          report p "rm" ("refusing to remove '.' or '..' directory: skipping " ++ quoted name)
          return false
        alterFiles (·.remove path)
        return true
      else if o.has "d" ∧ (files.children path).isEmpty then
        alterFiles (·.remove path)
        return true
      else fault "Is a directory"
  return endWith allWell

/-- Removes empty directories. -/
def rmdir : Tool := fun p args => do
  let o := Options.read "" args
  if o.operands.isEmpty then return ← missingOperand p "rmdir"
  let allWell ← forEachOperand o.operands fun name => do
    let files := (← get).files
    let path := p.path name
    let fault (reason : String) : M Bool := do
      report p "rmdir" ("failed to remove " ++ quoted name ++ ": " ++ reason)
      return false
    match files.find? path with
    | none => fault (absence files path)
    | some (.file _ _) => fault "Not a directory"
    | some .directory =>
      if !(files.children path).isEmpty then fault "Directory not empty"
      else
        alterFiles (·.remove path)
        return true
  return endWith allWell

/-- Makes directories. -/
def mkdir : Tool := fun p args => do
  let o := Options.read "m" args
  if o.operands.isEmpty then return ← missingOperand p "mkdir"
  let parents := o.has "p" || o.has "parents"
  let allWell ← forEachOperand o.operands fun name => do
    let files := (← get).files
    let path := p.path name
    let fault (reason : String) : M Bool := do
      report p "mkdir" ("cannot create directory " ++ quoted name ++ ": " ++ reason)
      return false
    if parents then
      if passesFile files path then fault "Not a directory"
      else if files.isFile path then fault "File exists"
      else
        alterFiles (·.makePath path)
        return true
    else if files.exists? path then fault "File exists"
    else if !files.isDirectory path.dropLast then fault (absence files path)
    else
      alterFiles (·.put path .directory)
      return true
  return endWith allWell

/-- Makes files that are not there yet. -/
def touch : Tool := fun p args => do
  let o := Options.read "drt" args
  if o.operands.isEmpty then
    report p "touch" "missing file operand\nTry 'touch --help' for more information."
    return .exited 1
  let allWell ← forEachOperand o.operands fun name => do
    let files := (← get).files
    let path := p.path name
    if !name.isEmpty ∧ (files.exists? path ∨ o.has "c" ∨ (deviceDescriptor? path).isSome) then
      return true
    else if !name.isEmpty ∧ files.isDirectory path.dropLast then
      alterFiles (·.put path (.file "" false))
      return true
    else
      report p "touch" ("cannot touch " ++ quoted name ++ ": " ++ absence files path)
      return false
  return endWith allWell

/-- Whether a mode makes a file runnable; nothing if the mode says nothing about that. -/
def runnable? (mode : String) : Option Bool :=
  match mode.toList.reverse with
  | [] => none
  | last :: _ =>
    if mode.toList.all Char.isDigit then
      some (mode.toList.any fun c => (c.toNat - 48) % 2 = 1)
    else
      let (_, change) := mode.toList.span fun c => c.isAlpha
      match change with
      | '+' :: rights => if rights.contains 'x' then some true else none
      | '-' :: rights => if rights.contains 'x' then some false else none
      | '=' :: rights => some (rights.contains 'x')
      | _ => if last = 'x' then some true else none

/-- A word that is a mode, though it starts with a dash. -/
def isMinusMode (arg : String) : Bool :=
  match arg.toList with
  | '-' :: cs => !cs.isEmpty && cs.all fun c => c = 'r' || c = 'w' || c = 'x'
  | _ => false

/-- Makes files runnable, or no longer so. -/
def chmod : Tool := fun p args => do
  let o := Options.read "" (args.filter fun a => !isMinusMode a)
  let words := (args.filter isMinusMode) ++ o.operands
  match words with
  | [] => missingOperand p "chmod"
  | [mode] =>
    report p "chmod" ("missing operand after " ++ quoted mode ++
      "\nTry 'chmod --help' for more information.")
    return .exited 1
  | mode :: names =>
    let allWell ← forEachOperand names fun name => do
      let path := p.path name
      match (← get).files.find? path with
      | some (.file content executable) =>
        let now := (runnable? mode).getD executable
        alterFiles (·.put path (.file content now))
        return true
      | some .directory => return true
      | none =>
        report p "chmod" ("cannot access " ++ quoted name ++ ": No such file or directory")
        return false
    return endWith allWell

-- ---------------------------------------------------------------------------
-- From one place to another
-- ---------------------------------------------------------------------------

/-- The sources and the target of some operands. -/
def endsOf (p : Process) (name : String) (operands : List String) :
    M (Except ExitStatus (List String × String)) := do
  let hint := "\nTry " ++ quoted (name ++ " --help") ++ " for more information."
  match operands.reverse with
  | [] =>
    report p name ("missing file operand" ++ hint)
    return .error (.exited 1)
  | [source] =>
    report p name ("missing destination file operand after " ++ quoted source ++ hint)
    return .error (.exited 1)
  | target :: sources =>
    if 1 < sources.length ∧ !(← get).files.isDirectory (p.path target) then
      report p name ("target " ++ quoted target ++ ": " ++
        (if (← get).files.exists? (p.path target) then "Not a directory"
          else "No such file or directory"))
      return .error (.exited 1)
    return .ok (sources.reverse, target)

/-- The written path that a source gets at a target: inside it, if that is a directory. -/
def landing (p : Process) (files : Files) (source target : String) : String :=
  if files.isDirectory (p.path target) then
    (if target.endsWith "/" then target else target ++ "/") ++ lastName source
  else target

/-- Copies files and, if asked to, directories. -/
def cp : Tool := fun p args => do
  let o := Options.read "" args
  let whole := o.has "r" || o.has "R" || o.has "a" || o.has "recursive" || o.has "archive"
  match ← endsOf p "cp" o.operands with
  | .error status => return status
  | .ok (sources, target) =>
    let allWell ← forEachOperand sources fun source => do
      let files := (← get).files
      let fromPath := p.path source
      let place := landing p files source target
      let toPath := p.path place
      match files.find? fromPath with
      | none =>
        report p "cp" ("cannot stat " ++ quoted source ++ ": " ++ absence files fromPath)
        return false
      | some .directory =>
        if !whole then
          report p "cp" ("-r not specified; omitting directory " ++ quoted source)
          return false
        else
          alterFiles (·.copy fromPath toPath)
          return true
      | some (.file content executable) =>
        if fromPath = toPath then
          report p "cp" (quoted source ++ " and " ++ quoted place ++ " are the same file")
          return false
        else if !files.isDirectory toPath.dropLast then
          report p "cp" ("cannot create regular file " ++ quoted place ++ ": " ++
            absence files toPath)
          return false
        else
          match files.find? toPath with
          | some (.file _ _) => alterFiles (·.write toPath content)
          | _ => alterFiles (·.put toPath (.file content executable))
          return true
    return endWith allWell

/-- Moves files and directories. -/
def mv : Tool := fun p args => do
  let o := Options.read "" args
  match ← endsOf p "mv" o.operands with
  | .error status => return status
  | .ok (sources, target) =>
    let allWell ← forEachOperand sources fun source => do
      let files := (← get).files
      let fromPath := p.path source
      let place := landing p files source target
      let toPath := p.path place
      if !files.exists? fromPath then
        report p "mv" ("cannot stat " ++ quoted source ++ ": " ++ absence files fromPath)
        return false
      else if fromPath = toPath then
        report p "mv" (quoted source ++ " and " ++ quoted place ++ " are the same file")
        return false
      else if !files.isDirectory toPath.dropLast then
        report p "mv" ("cannot move " ++ quoted source ++ " to " ++ quoted place ++ ": " ++
          absence files toPath)
        return false
      else
        alterFiles (·.move fromPath toPath)
        return true
    return endWith allWell

-- ---------------------------------------------------------------------------
-- What is there
-- ---------------------------------------------------------------------------

/-- Lists files and what is in directories. -/
def ls : Tool := fun p args => do
  let o := Options.read "" args
  let all := o.has "a" || o.has "all"
  let files := (← get).files
  let names := if o.operands.isEmpty then ["."] else o.operands.mergeSort fun a b => a ≤ b
  let listing (path : Path) : List String :=
    let found := files.children path
    let found := if all then "." :: ".." :: found
      else if o.has "A" then found
      else found.filter fun name => !name.startsWith "."
    if o.has "r" then found.reverse else found
  let lines (found : List String) : String := String.join (found.map fun name => name ++ "\n")
  let missing := names.filter fun name => name.isEmpty || !files.exists? (p.path name)
  for name in missing do
    report p "ls" ("cannot access " ++ quoted name ++ ": " ++ absence files (p.path name))
  let here := names.filter fun name => !missing.contains name
  let plain := here.filter fun name => o.has "d" || files.isFile (p.path name)
  let directories := here.filter fun name => !plain.contains name
  say p (lines plain)
  for (name, i) in directories.zipIdx do
    if 1 < names.length then
      say p ((if i = 0 ∧ plain.isEmpty then "" else "\n") ++ name ++ ":\n")
    say p (lines (listing (p.path name)))
  return if missing.isEmpty then success else .exited 2

end Errand.Machine.Tool
