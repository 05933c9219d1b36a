/-!
# Signals

Signals have numbers and names. Most of them end a process that does nothing against it; a shell that waits
for such a process says so, except where somebody interrupted it or it wrote to nobody.
-/

namespace ReleaseBundle.Shell.Signal

/-- The names of the signals in the order of their numbers, from one on. -/
def names : List String :=
  ["HUP", "INT", "QUIT", "ILL", "TRAP", "ABRT", "BUS", "FPE", "KILL", "USR1", "SEGV", "USR2", "PIPE",
    "ALRM", "TERM", "16", "CHLD", "CONT", "STOP", "TSTP", "TTIN", "TTOU", "URG", "XCPU", "XFSZ",
    "VTALRM", "PROF", "WINCH", "IO", "PWR", "SYS", "32", "33", "RTMIN"] ++
    (List.range 15).map (fun n => "RTMIN+" ++ toString (n + 1)) ++
    (List.range 14).map (fun n => "RTMAX-" ++ toString (14 - n)) ++ ["RTMAX"]

/-- The name of a signal; zero is the end of a process. -/
def name (n : Nat) : String := if n = 0 then "EXIT" else names.getD (n - 1) ""

/-- The largest number of a signal. -/
def largest : Nat := names.length

/-- The signal that a text names. -/
def ofName? (t : String) : Option Nat :=
  if t.toList.all Char.isDigit && t != "" then t.toNat?.filter (· ≤ largest)
  else
    let upper := t.toUpper
    if upper = "EXIT" then some 0 else (names.findIdx? (· == upper)).map (· + 1)

/-- The signal that tells of the end of a process to the one it comes from. -/
def childEnded : Nat := 17

/-- Signals that a process takes no notice of, or that only stop it for a while. -/
def isHarmless (n : Nat) : Bool := [17, 18, 19, 20, 21, 22, 23, 28].contains n

/-- What a shell says when a process was ended by a signal. -/
def notice? (n : Nat) : Option String :=
  match n with
  | 1 => some "Hangup"
  | 3 => some "Quit"
  | 4 => some "Illegal instruction"
  | 5 => some "Trace/breakpoint trap"
  | 6 => some "Aborted"
  | 7 => some "Bus error"
  | 8 => some "Floating point exception"
  | 9 => some "Killed"
  | 10 => some "User defined signal 1"
  | 11 => some "Segmentation fault"
  | 12 => some "User defined signal 2"
  | 14 => some "Alarm clock"
  | 15 => some "Terminated"
  | 16 => some "Stack fault"
  | 24 => some "CPU time limit exceeded"
  | 25 => some "File size limit exceeded"
  | 26 => some "Virtual timer expired"
  | 27 => some "Profiling timer expired"
  | 29 => some "I/O possible"
  | 30 => some "Power failure"
  | 31 => some "Bad system call"
  | n => if 32 ≤ n ∧ n ≤ 64 then some ("Real-time signal " ++ toString (n - 34)) else none

end ReleaseBundle.Shell.Signal
