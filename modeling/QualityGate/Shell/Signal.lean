import QualityGate.Text.Lines

/-!
# Signals

A signal ends a process, unless the process has set a command to be run instead.
-/

namespace QualityGate.Shell

/-- The signals by name. -/
def signals : List (String × Nat) := [("HUP", 1), ("INT", 2), ("QUIT", 3), ("ILL", 4), ("TRAP", 5),
  ("ABRT", 6), ("BUS", 7), ("FPE", 8), ("KILL", 9), ("USR1", 10), ("SEGV", 11), ("USR2", 12),
  ("PIPE", 13), ("ALRM", 14), ("TERM", 15), ("CHLD", 17), ("CONT", 18), ("STOP", 19),
  ("TSTP", 20), ("TTIN", 21), ("TTOU", 22), ("URG", 23), ("XCPU", 24), ("XFSZ", 25),
  ("VTALRM", 26), ("PROF", 27), ("WINCH", 28), ("POLL", 29), ("PWR", 30), ("SYS", 31)]

/-- The largest number of a signal. -/
def lastSignal : Nat := 64

/-- The number that a text of digits stands for. -/
def digits? (text : String) : Option Nat :=
  if text.toList.all Char.isDigit then text.toNat? else none

/-- The number of a signal that is given by number or by name. -/
def signal? (text : String) : Option Nat :=
  match digits? text with
  | some number => if number ≤ lastSignal then some number else none
  | none =>
    let name := (Text.stripPrefix? "SIG".toList text.toList).getD text.toList
    signals.lookup (String.ofList name)

/-- The name of a signal. -/
def signalName (signal : Nat) : String :=
  ((signals.find? (·.2 == signal)).map (·.1)).getD (toString signal)

/-- What is done with a signal that a process has set nothing for. -/
inductive Disposition where
  | ends
  | stops
  | ignored
  deriving DecidableEq, Repr

/-- The disposition of a signal. -/
def dispositionOf (signal : Nat) : Disposition :=
  if signal ∈ [0, 17, 18, 23, 28] then .ignored
  else if signal ∈ [19, 20, 21, 22] then .stops
  else .ends

/-- What a shell says about a command that a signal ended. -/
def signalNotice (signal : Nat) : String :=
  ([(1, "Hangup"), (3, "Quit"), (4, "Illegal instruction"), (5, "Trace/breakpoint trap"),
    (6, "Aborted"), (7, "Bus error"), (8, "Floating point exception"), (9, "Killed"),
    (10, "User defined signal 1"), (11, "Segmentation fault"), (12, "User defined signal 2"),
    (14, "Alarm clock"), (15, "Terminated"), (24, "CPU time limit exceeded"),
    (25, "File size limit exceeded"), (31, "Bad system call")].lookup signal).getD ""

end QualityGate.Shell
