import Mender.Machine.Shell.Expand
import Mender.Machine.Shell.Signal
import Mender.Machine.Shell.Stream
import Mender.Machine.Shell.Syntax
import Mender.Machine.Tool.Number

namespace Mender.Machine.Shell

open Files

inductive Interrupt where
  | exited
  /-- A fault that a command other than the special ones keeps to itself. -/
  | failed
  /-- Ended by a signal: the whole shell, or just what was split off from it. -/
  | killed (signal : Nat) (whole : Bool)
  | returned
  | broken (loops : Nat)
  | continued (loops : Nat)
  deriving DecidableEq, Repr, Inhabited

structure Variable where
  value : Option String := none
  exported : Bool := false
  readonly : Bool := false
  deriving DecidableEq, Repr, Inhabited

def optionTable : List (String × Option Char) :=
  [("errexit", some 'e'), ("noglob", some 'f'), ("ignoreeof", some 'I'), ("interactive", some 'i'),
    ("monitor", some 'm'), ("noexec", some 'n'), ("stdin", some 's'), ("xtrace", some 'x'),
    ("verbose", some 'v'), ("vi", some 'V'), ("emacs", some 'E'), ("noclobber", some 'C'),
    ("allexport", some 'a'), ("notify", some 'b'), ("nounset", some 'u'), ("privileged", some 'p'),
    ("nolog", none), ("debug", none)]

structure State where
  files : Disk
  streams : Array Stream
  descriptors : List (Nat × Nat)
  name : String
  caller : Option String
  arguments : List String
  bindings : List (String × Variable)
  scopes : List (List (String × Option Variable))
  savedOptions : List (Option (List String))
  functions : List (String × Command)
  aliases : List (String × String)
  documents : Array Word
  options : List String
  traps : List (Nat × String)
  trapped : Option Nat
  /-- Whether the shell was split off from the one that its number stands for. -/
  split : Bool
  caught : List Nat
  process : Nat
  nextProcess : Nat
  lastProcess : Option Nat
  ended : List (Nat × Nat)
  status : Nat
  line : Nat
  reached : Nat
  loops : Nat
  calls : Nat
  /-- How the last command whose output was taken in has ended. -/
  substituted : Nat
  optionIndex : Nat
  optionOffset : Option Nat
  tracked : List String
  mask : Nat

abbrev Run := ExceptT Interrupt (StateM State)

namespace Run

def setStatus (n : Nat) : Run Unit := modify fun s => { s with status := n }

def setFiles (files : Disk) : Run Unit := modify fun s => { s with files }

def isOn (option : String) : Run Bool := return option ∈ (← get).options

def setOption (name : String) (on : Bool) : Run Unit :=
  modify fun s => { s with
    options := if on then name :: s.options.filter (· ≠ name) else s.options.filter (· ≠ name) }

def openStream (stream : Stream) : Run Nat := do
  let s ← get
  set { s with streams := s.streams.push stream }
  return s.streams.size

def stream? (descriptor : Nat) : Run (Option Stream) := do
  let s ← get
  return (s.descriptors.lookup descriptor).bind (s.streams[·]?)

def setStream (descriptor : Nat) (stream : Stream) : Run Unit :=
  modify fun s => match s.descriptors.lookup descriptor with
    | some i => { s with streams := s.streams.setIfInBounds i stream }
    | none => s

def write (descriptor : Nat) (text : String) : Run Bool := do
  if text = "" then return true
  match ← stream? descriptor with
  | some stream =>
    if stream.writable then
      let s ← get
      let i := (s.descriptors.lookup descriptor).getD s.streams.size
      -- The stream is taken out of the state so that it is not copied.
      set { s with streams := s.streams.setIfInBounds i default }
      let (stream, files) := stream.write s.files (Text.toBytes text)
      modify fun s => { s with streams := s.streams.setIfInBounds i stream, files }
      return true
    else return false
  | none => return false

def redirect (descriptor i : Nat) : Run Unit :=
  modify fun s => { s with
    descriptors := (descriptor, i) :: s.descriptors.filter (·.1 ≠ descriptor) }

def close (descriptor : Nat) : Run Unit :=
  modify fun s => { s with descriptors := s.descriptors.filter (·.1 ≠ descriptor) }

def restoring {α : Type} (body : Run α) : Run α := do
  let outer := (← get).descriptors
  let restore : Run Unit := modify fun s => { s with descriptors := outer }
  try
    let a ← body
    restore
    return a
  catch i =>
    restore
    throw i

def heading : Run String := do
  let s ← get
  let caller := match s.caller with
    | some name => name ++ ": "
    | none => ""
  return s!"{s.name}: {s.line}: {caller}"

def complain (text : String) : Run Unit := do
  let _ ← write 2 ((← heading) ++ text ++ "\n")

def refuse (status : Nat) (text : String) : Run Unit := do
  complain text
  setStatus status

def abort {α : Type} (text : String) : Run α := do
  refuse 2 text
  throw .failed

def calling {α : Type} (name : String) (body : Run α) : Run α := do
  let outer := (← get).caller
  let restore : Run Unit := modify fun s => { s with caller := outer }
  modify fun s => { s with caller := some name }
  try
    let a ← body
    restore
    return a
  catch i =>
    restore
    throw i

def binding? (name : String) : Run (Option Variable) := return (← get).bindings.lookup name

def setVariable (name : String) (v : Variable) : Run Unit :=
  modify fun s => { s with bindings := (name, v) :: s.bindings.filter (·.1 ≠ name) }

def dropVariable (name : String) : Run Unit :=
  modify fun s => { s with bindings := s.bindings.filter (·.1 ≠ name) }

def value? (name : String) : Run (Option String) := return (← binding? name).bind (·.value)

def checkName (name : String) : Run Unit := do
  if !isName name.toList then abort s!"{name}: bad variable name"

def bind (name value : String) : Run Unit := do
  let v := (← binding? name).getD {}
  if v.readonly then abort s!"{name}: is read only"
  let exported := v.exported || (← isOn "allexport")
  setVariable name { v with value := some value, exported }

def assign (name value : String) : Run Unit := do
  bind name value
  if name = "OPTIND" then
    match Tool.word? (some 10) value with
    | some n =>
      modify fun s => { s with optionIndex := if n ≤ 0 then 1 else n.toNat, optionOffset := none }
    | none => abort s!"Illegal number: {value}"
  if name = "PATH" then modify fun s => { s with tracked := [] }

def unassign (name : String) : Run Unit := do
  checkName name
  match ← binding? name with
  | some v => if v.readonly then abort s!"{name}: is read only" else dropVariable name
  | none => return ()

def makeLocal (name : String) : Run Unit := do
  let old ← binding? name
  modify fun s => match s.scopes with
    | scope :: outer =>
      if scope.any (·.1 = name) then s else { s with scopes := ((name, old) :: scope) :: outer }
    | [] => s

def withScope {α : Type} (body : Run α) : Run α := do
  modify fun s => { s with scopes := [] :: s.scopes, savedOptions := none :: s.savedOptions }
  let restore : Run Unit := modify fun s =>
    let kept := s.bindings.filter fun b => !((s.scopes.headD []).any (·.1 = b.1))
    let old := (s.scopes.headD []).filterMap fun (name, v) => v.map (name, ·)
    { s with
      bindings := old ++ kept
      scopes := s.scopes.tail
      options := (s.savedOptions.headD none).getD s.options
      savedOptions := s.savedOptions.tail }
  try
    let a ← body
    restore
    return a
  catch i =>
    restore
    throw i

def separators : Run (List Char) := do
  match ← value? "IFS" with
  | some s => return s.toList
  | none => return [' ', '\t', '\n']

def optionLetters : Run String := do
  let on := (← get).options
  return .ofList ((optionTable.filter (·.1 ∈ on)).filterMap (·.2)).reverse

def parameter? (name : String) : Run (Option String) := do
  let s ← get
  match name with
  | "?" => return some (toString s.status)
  | "#" => return some (toString s.arguments.length)
  | "$" => return some (toString s.process)
  | "!" => return s.lastProcess.map toString
  | "-" => return some (← optionLetters)
  | _ =>
    if name.toList.all Char.isDigit then
      let n := Tool.decimal name.toList
      return if n = 0 then some s.name else s.arguments[n - 1]?
    else value? name

def inheritedTraps (traps : List (Nat × String)) : List (Nat × String) :=
  traps.filter fun (signal, action) => signal ≠ 0 && action = ""

/-- Carries out a body on a copy of the shell, of which only its files, what it wrote, its status and
the signals that it sent are left. The copy takes no part in what goes on behind it. The answer is
the signal that ended the copy, if one did. -/
def apart (body finish : Run Unit) : Run (Option Nat) := do
  let outer ← get
  set { outer with traps := inheritedTraps outer.traps, split := true }
  let rejoin (status : Nat) : Run Unit := modify fun s => { outer with
    files := { s.files with here := outer.files.here }
    streams := s.streams
    documents := s.documents
    caught := s.caught
    nextProcess := s.nextProcess
    status }
  let ending : Run Unit := do
    finish
    rejoin (← get).status
  let whole : Run Unit := do
    try body catch
      | .killed signal whole => throw (.killed signal whole)
      | _ => pure ()
    ending
  try
    whole
    return none
  catch
    | .killed signal false =>
      rejoin (128 + signal)
      return some signal
    | .killed signal true =>
      rejoin (128 + signal)
      throw (.killed signal true)
    | _ =>
      rejoin (← get).status
      return none

def mourn (signal : Option Nat) : Run Unit := do
  if let some text := signal.bind obituary then
    let _ ← write 2 (text ++ "\n")

end Run

end Mender.Machine.Shell
