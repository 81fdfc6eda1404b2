import Errand.Machine.World

/-!
# Errand — signals

The signals of the machine by number and name, what is said of a process that
one of them ended, and which of them end no process.

* `Signals.number?`     — a signal by its number or name.
* `Signals.description` — what is said of a process that a signal ended.
* `Signals.mention`     — says so of a process.
* `Signals.isMild`      — a signal that ends no process.
-/

namespace Errand.Machine.Signals

/-- The names of the signals, from number one on, and what is said of a process they ended. -/
def table : List (String × String) :=
  [("HUP", "Hangup"), ("INT", "Interrupt"), ("QUIT", "Quit"), ("ILL", "Illegal instruction"),
   ("TRAP", "Trace/breakpoint trap"), ("ABRT", "Aborted"), ("BUS", "Bus error"),
   ("FPE", "Floating point exception"), ("KILL", "Killed"), ("USR1", "User defined signal 1"),
   ("SEGV", "Segmentation fault"), ("USR2", "User defined signal 2"), ("PIPE", "Broken pipe"),
   ("ALRM", "Alarm clock"), ("TERM", "Terminated"), ("16", "Stack fault"),
   ("CHLD", "Child exited"), ("CONT", "Continued"), ("STOP", "Stopped (signal)"),
   ("TSTP", "Stopped"), ("TTIN", "Stopped (tty input)"), ("TTOU", "Stopped (tty output)"),
   ("URG", "Urgent I/O condition"), ("XCPU", "CPU time limit exceeded"),
   ("XFSZ", "File size limit exceeded"), ("VTALRM", "Virtual timer expired"),
   ("PROF", "Profiling timer expired"), ("WINCH", "Window changed"), ("IO", "I/O possible"),
   ("PWR", "Power failure"), ("SYS", "Bad system call")]

/-- A signal by its number or name; zero stands for the end of a shell. -/
def number? (written : String) : Option Nat :=
  match written.toNat? with
  | some n => if n ≤ 64 then some n else none
  | none =>
    if written = "EXIT" then some 0
    else
      let name := if written.startsWith "SIG" then (written.drop 3).toString else written
      (table.findIdx? fun row => row.1 = name).map (· + 1)

/-- The name of a signal beyond the table: those that are for the use of programs. -/
def furtherName (number : Nat) : String :=
  if number < 34 ∨ 64 < number then toString number
  else if number = 34 then "RTMIN"
  else if number < 50 then "RTMIN+" ++ toString (number - 34)
  else if number < 64 then "RTMAX-" ++ toString (64 - number)
  else "RTMAX"

/-- The name of a signal. -/
def name (number : Nat) : String :=
  if number = 0 then "EXIT" else (table[number - 1]?.map Prod.fst).getD (furtherName number)

/-- The names of all signals, as they are listed. -/
def names : List String := "0" :: (List.range 64).map fun n => name (n + 1)

/-- What is said of a process that a signal ended. -/
def description (number : Nat) : String :=
  (table[number - 1]?.map Prod.snd).getD ("Unknown signal " ++ toString number)

/-- Says of a process that a signal ended what there is to say, among the diagnostics of another;
an interrupt or a broken pipe goes without saying. -/
def mention (p : Process) (status : ExitStatus) : M Unit := do
  match status with
  | .killed number =>
    if number ≠ 2 ∧ number ≠ 13 then complain p (description number ++ "\n")
  | .exited _ => pure ()

/-- A signal that ends no process by itself. -/
def isMild (number : Nat) : Bool :=
  [0, 17, 18, 19, 20, 21, 22, 23, 28].contains number

end Errand.Machine.Signals
