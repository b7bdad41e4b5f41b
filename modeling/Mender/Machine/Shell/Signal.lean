namespace Mender.Machine.Shell

def signalNames : List (Nat × String) :=
  ["HUP", "INT", "QUIT", "ILL", "TRAP", "ABRT", "BUS", "FPE", "KILL", "USR1", "SEGV", "USR2", "PIPE",
    "ALRM", "TERM", "16", "CHLD", "CONT", "STOP", "TSTP", "TTIN", "TTOU", "URG", "XCPU", "XFSZ",
    "VTALRM", "PROF", "WINCH", "IO", "PWR", "SYS", "32", "33", "RTMIN"].mapIdx
      (fun i name => (i + 1, name)) ++
    (List.range 15).map (fun i => (35 + i, s!"RTMIN+{i + 1}")) ++
    (List.range 14).map (fun i => (50 + i, s!"RTMAX-{14 - i}")) ++ [(64, "RTMAX")]

def signalName (n : Nat) : String :=
  if n = 0 then "EXIT" else (signalNames.lookup n).getD (toString n)

def signalCount : Nat := 65

def signal? (least : Nat) (text : String) : Option Nat :=
  if text ≠ "" ∧ text.toList.all Char.isDigit then
    text.toNat?.filter (· < signalCount)
  else
    let named := ((0, "EXIT") :: signalNames).find? fun (n, name) =>
      least ≤ n && name = text.toUpper
    named.map (·.1)

def isHarmless (signal : Nat) : Bool := signal ∈ [17, 18, 23, 28]

def stops (signal : Nat) : Bool := signal ∈ [19, 20, 21, 22]

def isFinal (signal : Nat) : Bool := signal ∈ [9, 19]

def obituary (signal : Nat) : Option String :=
  match signal with
  | 1 => some "Hangup"
  | 2 | 13 => none
  | 3 => some "Quit"
  | 4 => some "Illegal instruction"
  | 5 => some "Trace/breakpoint trap"
  | 6 => some "Aborted"
  | 7 => some "Bus error"
  | 8 => some "Floating point exception"
  | 9 => some "Killed"
  | 10 => some "User defined signal 1"
  | 11 => some "Segmentation fault"
  | 12 => some "User defined signal 2"
  | 14 => some "Alarm clock"
  | 15 => some "Terminated"
  | 16 => some "Stack fault"
  | 24 => some "CPU time limit exceeded"
  | 25 => some "File size limit exceeded"
  | 26 => some "Virtual timer expired"
  | 27 => some "Profiling timer expired"
  | 29 => some "I/O possible"
  | 30 => some "Power failure"
  | 31 => some "Bad system call"
  | n => if n = 32 ∨ n = 33 then some s!"Unknown signal {n}" else some s!"Real-time signal {n - 34}"

end Mender.Machine.Shell
