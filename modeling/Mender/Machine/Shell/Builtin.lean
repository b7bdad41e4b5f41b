import Mender.Machine.Shell.Builtin.Reading
import Mender.Machine.Shell.Builtin.Settings
import Mender.Machine.Shell.Builtin.Signals
import Mender.Machine.Shell.Parse
import Mender.Machine.Shell.Printf
import Mender.Machine.Shell.Program

namespace Mender.Machine.Shell

open Files Run

def leaveLoops (leave : Nat → Interrupt) : Builtin := fun arguments => do
  let n ← countIn 1 arguments
  if n = 0 then abort ("Illegal number: " ++ arguments.headD "")
  let loops := (← get).loops
  modify fun s => { s with status := 0 }
  if 0 < loops then throw (leave (min n loops)) else return {}

/-- Ends the shell. Where a trap is carried out, what was before it counts. -/
def exitShell : Builtin := fun arguments => do
  let s ← get
  let n ← countIn (s.trapped.getD s.status) arguments
  setStatus (n % 256)
  throw .exited

def returnFrom : Builtin := fun arguments => do
  let n ← countIn (← get).status arguments
  setStatus n
  throw .returned

def carrierNames : List String := ["eval", "exec", "command", "."]

def track (name : String) : Run Unit :=
  modify fun s => { s with
    tracked := if s.tracked.contains name || name.contains '/' then s.tracked
      else s.tracked ++ [name] }

def pathVariable : Run String := return (← value? "PATH").getD ""

def lookFor (path name : String) : Run (Except Fault (String × Program)) := do
  return findProgram (← get).files path name

def describe (builtins : List String) (long : Bool) (path : Option String) (name : String) :
    Run Reply := do
  let s ← get
  let told (short verbose : String) : Reply :=
    { text := if long then name ++ verbose ++ "\n" else short ++ "\n" }
  if reservedWords.contains name then return told name " is a shell keyword"
  match s.aliases.lookup name with
  | some text =>
    return told s!"alias {name}={singleQuoted text}" s!" is an alias for {text}"
  | none =>
    if (s.functions.lookup name).isSome then return told name " is a shell function"
    else if isSpecialCommand name then return told name " is a special shell builtin"
    else if builtins.contains name then return told name " is a shell builtin"
    else match ← lookFor (path.getD (← pathVariable)) name with
      | .ok (found, _) =>
        let known := path.isNone && s.tracked.contains name
        if path.isNone then track name
        return told found (if known then s!" is a tracked alias for {found}" else s!" is {found}")
      | .error _ => return { text := if long then s!"{name}: not found\n" else "", status := 127 }

def describeAll (builtins : List String) : Builtin := fun arguments => do
  let mut reply : Reply := {}
  for name in arguments do
    let r ← describe builtins true none name
    reply := ⟨reply.text ++ r.text, reply.status ||| r.status⟩
  return reply

def describeFirst (builtins : List String) : Builtin := fun arguments => do
  let (given, operands) ← optionsIn [('p', false), ('v', false), ('V', false)] arguments
  let path := if given.any (·.1 = 'p') then some standardPath else none
  let brief := given.any (·.1 = 'v')
  let long := given.any (·.1 = 'V')
  match operands with
  | name :: _ => if brief || long then describe builtins long path name else return {}
  | [] => return {}

def trackNames (builtins : List String) : Builtin := fun arguments => do
  let (given, operands) ← optionsIn [('r', false)] arguments
  if given ≠ [] then
    modify fun s => { s with tracked := [] }
    return {}
  let path ← pathVariable
  if operands = [] then
    let mut text := ""
    for name in (← get).tracked do
      if let .ok (found, _) ← lookFor path name then text := text ++ found ++ "\n"
    return { text }
  let mut status := 0
  for name in operands do
    if !((← get).functions.lookup name).isSome ∧ !builtins.contains name then
      match ← lookFor path name with
      | .ok _ => track name
      | .error e =>
        complain s!"{name}: {startReason e}"
        status := 1
  return { status }

def simpleBuiltins : List (String × Builtin) :=
  [(":", fun _ => return {}), ("true", fun _ => return {}), ("false", fun _ => return ⟨"", 1⟩),
    ("echo", builtinOf Tool.echoBuiltin), ("printf", builtinOf Printf.command),
    ("test", builtinOf (Tool.condition false)), ("[", builtinOf (Tool.condition true)),
    ("exit", exitShell), ("return", returnFrom), ("break", leaveLoops .broken),
    ("continue", leaveLoops .continued), ("cd", changeDirectory), ("chdir", changeDirectory),
    ("pwd", printDirectory), ("export", exportNames), ("readonly", protectNames),
    ("local", localNames), ("unset", unsetNames), ("alias", aliasNames),
    ("unalias", unaliasNames), ("shift", shift), ("set", setOptions), ("umask", setMask),
    ("read", readNames), ("getopts", getOptions), ("trap", setTraps), ("kill", kill),
    ("wait", waitFor), ("jobs", fun _ => return {}),
    ("times", fun _ => return { text := "0m0.000000s 0m0.000000s\n0m0.000000s 0m0.000000s\n" }),
    ("ulimit", fun _ => return { text := "unlimited\n" }),
    ("fg", fun _ => abort "No current job"), ("bg", fun _ => abort "No current job")]

def builtinNames : List String :=
  simpleBuiltins.map (·.1) ++ carrierNames ++ ["type", "hash"]

def builtin? (name : String) : Option Builtin :=
  match name with
  | "type" => some (describeAll builtinNames)
  | "hash" => some (trackNames builtinNames)
  | "command" => some (describeFirst builtinNames)
  | name => simpleBuiltins.lookup name

def takesAssignments (name : String) : Bool :=
  name ∈ ["export", "readonly", "local", "alias"]

end Mender.Machine.Shell
