import Errand.Machine.Git.Inspect

/-!
# Errand — Git

The program by the name of Git: its first word names a command, and the rest
are the arguments of that command.

* `Git.command?` — a command by its name.
* `Git.program`  — the program.
-/

namespace Errand.Machine.Git

open Work

/-- A command that needs a repository, by its name. -/
def command? (name : String) : Option (List String → Work Unit) :=
  match name with
  | "add" | "stage" => some add
  | "rm" => some rm
  | "mv" => some mv
  | "commit" => some commit
  | "reset" => some reset
  | "restore" => some restore
  | "stash" => some stash
  | "branch" => some branch
  | "tag" => some tag
  | "checkout" => some checkout
  | "switch" => some switch
  | "merge" => some merge
  | "remote" => some remote
  | "push" => some push
  | "fetch" => some fetch
  | "pull" => some pull
  | "rev-parse" => some revParse
  | "symbolic-ref" => some symbolicRef
  | "update-ref" => some updateRef
  | "for-each-ref" => some forEachRef
  | "log" => some log
  | "show" => some showObject
  | "rev-list" => some revList
  | "merge-base" => some mergeBase
  | "status" => some status
  | "diff" => some diff
  | "ls-files" => some lsFiles
  | "ls-tree" => some lsTree
  | "clean" => some clean
  | "config" => some config
  | _ => none

/-- What stands before the command: a directory, and settings for this run only. -/
def leading (p : Process) (fuel : Nat) (args : List String) : Process × List String :=
  match fuel, args with
  | 0, args => (p, args)
  | fuel + 1, "-C" :: directory :: rest =>
    leading { p with directory := p.path directory } fuel rest
  | fuel + 1, "-c" :: _ :: rest => leading p fuel rest
  | fuel + 1, "--no-pager" :: rest => leading p fuel rest
  | _, args => (p, args)

/-- Runs a command in a repository. -/
def runIn (launch : Process → String → List String → M ExitStatus) (p : Process) (repo : Repo)
    (work : Work Unit) : M ExitStatus := do
  match ← (work ⟨p, repo, launch⟩).run with
  | .ok () => return .exited 0
  | .error status => return status

/-- The repository that a process works in. -/
def repositoryOf (p : Process) : M (Option Repo) := do
  let files := (← get).files
  match (p.environment.find? fun v => v.1 = "GIT_DIR").map Prod.snd with
  | some dir =>
    let path := p.path dir
    return if isRepository files path then
      some ⟨path, if setting? files path "core.bare" = some "true" then none else some p.directory⟩
    else none
  | none => return Repo.locate files p.directory

/-- The program. -/
def program (launch : Process → String → List String → M ExitStatus) : Tool := fun p args => do
  let (p, args) := leading p (args.length + 1) args
  match args with
  | [] =>
    say p "usage: git [-v | --version] [-h | --help] [-C <path>] [-c <name>=<value>]\n"
    return .exited 1
  | "--version" :: _ | "version" :: _ | "-v" :: _ =>
    say p "git version 2.39.5\n"
    return .exited 0
  | "init" :: rest => create p rest
  | "clone" :: rest => runIn launch p ⟨p.directory, some p.directory⟩ (clone rest)
  | name :: rest =>
    match command? name with
    | none =>
      complain p ("git: '" ++ name ++ "' is not a git command. See 'git --help'.\n")
      return .exited 1
    | some command =>
      match ← repositoryOf p with
      | none =>
        complain p "fatal: not a git repository (or any of the parent directories): .git\n"
        return .exited 128
      | some repo => runIn launch p repo (command rest)

end Errand.Machine.Git
