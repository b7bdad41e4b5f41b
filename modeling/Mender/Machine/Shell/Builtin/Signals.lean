import Mender.Machine.Shell.Builtin.Basic

namespace Mender.Machine.Shell

open Run

def signalNumber? (s : String) : Option Nat :=
  if s ≠ "" ∧ s.toList.all Char.isDigit then signal? 0 s else none

def setTraps : Builtin := fun arguments => do
  match ← operandsIn arguments with
  | [] =>
    let traps := (← get).traps.mergeSort fun a b => a.1 ≤ b.1
    return { text := String.join (traps.map fun (signal, action) =>
      s!"trap -- {singleQuoted action} {signalName signal}\n") }
  | first :: rest =>
    let (action, names) := if rest = [] ∨ (signalNumber? first).isSome then (none, first :: rest)
      else (if first = "-" then none else some first, rest)
    for name in names do
      match signal? 0 name with
      | none =>
        let _ ← write 2 s!"trap: {name}: bad trap\n"
        return { status := 1 }
      | some signal =>
        modify fun s => { s with
          traps := (action.toList.map (signal, ·)) ++ s.traps.filter (·.1 ≠ signal) }
    return {}

/-- Sends a signal to a process; tells whether there is such a process. Only the shell that is
known by the number acts on it, once it is its turn. -/
def send (signal process : Nat) : Run Bool := do
  let s ← get
  if process = s.process then
    let action := s.traps.lookup signal
    if signal = 0 then return true
    else if s.split ∨ (action.isSome ∧ !isFinal signal) then
      modify fun s => { s with caught := s.caught ++ [signal] }
      return true
    else if isHarmless signal ∨ stops signal then return true
    else throw (.killed signal true)
  else return (s.ended.lookup process).isSome

def killUsage : String :=
  "Usage: kill [-s sigspec | -signum | -sigspec] [pid | job]... or\nkill -l [exitstatus]"

def killOptions (arguments : List String) : Run (Bool × Option Nat × List String) := do
  match arguments with
  | [] => abort killUsage
  | first :: rest =>
    if !first.startsWith "-" then return (false, none, arguments)
    match signal? 1 (.ofList first.toList.tail) with
    | some signal => return (false, some signal, rest)
    | none =>
      let (given, operands) ← optionsIn [('l', false), ('s', true)] arguments
      let signals ← (given.filter (·.1 = 's')).mapM fun (_, name) =>
        match signal? 1 name with
        | some signal => pure signal
        | none => abort s!"invalid signal number or name: {name}"
      return (given.any (·.1 = 'l'), signals.getLast?, operands)

def kill : Builtin := fun arguments => do
  let (list, signal, operands) ← killOptions arguments
  if list then
    if signal.isSome then abort killUsage
    match operands with
    | [] =>
      let names := (List.range (signalCount - 1)).map fun i => signalName (i + 1)
      return { text := String.join (("0" :: names).map (· ++ "\n")) }
    | s :: _ =>
      let n ← numberIn s
      let n := if 128 < n then n - 128 else n
      if 0 < n ∧ n < signalCount then return { text := signalName n ++ "\n" }
      else abort s!"invalid signal number or exit status: {s}"
  else
    if operands = [] then abort killUsage
    let mut status := 0
    for s in operands do
      if s.startsWith "%" then abort s!"No such job: {s}"
      let known ← if s.startsWith "-" then do
          let _ ← numberIn (.ofList s.toList.tail)
          pure false
        else do send (signal.getD 15) (← numberIn s)
      if !known then
        complain "No such process\n"
        status := 1
    return { status }

def waitFor : Builtin := fun arguments => do
  let mut status := 0
  for s in ← operandsIn arguments do
    if s.startsWith "%" then abort s!"No such job: {s}"
    status := ((← get).ended.lookup (← numberIn s)).getD 127
  return { status }

end Mender.Machine.Shell
