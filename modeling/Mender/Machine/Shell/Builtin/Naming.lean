import Mender.Machine.Shell.Builtin.Basic

namespace Mender.Machine.Shell

open Run

def nameValue (s : String) : String × Option String :=
  let name := s.toList.takeWhile (· ≠ '=')
  match s.toList.drop name.length with
  | _ :: value => (.ofList name, some (.ofList value))
  | [] => (.ofList name, none)

def listing (front : String) (chosen : Variable → Bool) : Run String := do
  let bindings := (← get).bindings.filter fun (_, v) => chosen v
  let line (b : String × Variable) : String :=
    match b.2.value with
    | some value => s!"{front}{b.1}={singleQuoted value}\n"
    | none => s!"{front}{b.1}\n"
  return String.join ((bindings.mergeSort fun a b => a.1 ≤ b.1).map line)

def markNames (command : String) (isMarked : Variable → Bool) (mark : Variable → Variable) :
    Builtin := fun arguments => do
  let (given, names) ← optionsIn [('p', false)] arguments
  if given ≠ [] ∨ names = [] then return { text := ← listing (command ++ " ") isMarked }
  for s in names do
    let (name, value) := nameValue s
    checkName name
    if let some value := value then assign name value
    setVariable name (mark ((← binding? name).getD {}))
  return {}

def exportNames : Builtin := markNames "export" (·.exported) fun v => { v with exported := true }

def protectNames : Builtin :=
  markNames "readonly" (·.readonly) fun v => { v with readonly := true }

def localNames : Builtin := fun arguments => do
  if (← get).scopes.isEmpty then abort "not in a function"
  for s in ← operandsIn arguments do
    if s = "-" then
      modify fun st => { st with savedOptions := match st.savedOptions with
        | none :: outer => some st.options :: outer
        | saved => saved }
    else
      let (name, value) := nameValue s
      checkName name
      makeLocal name
      match value with
      | some value => assign name value
      | none =>
        if (← binding? name).isNone then setVariable name {}
  return {}

def unsetNames : Builtin := fun arguments => do
  let (given, names) ← optionsIn [('v', false), ('f', false)] arguments
  if (given.getLast?).map (·.1) = some 'f' then
    modify fun s => { s with functions := s.functions.filter fun f => !names.contains f.1 }
  else
    for s in names do unassign (nameValue s).1
  return {}

def aliasLine (name text : String) : String := s!"{name}={singleQuoted text}\n"

def aliasPlace (name : String) : Nat :=
  match name.toList with
  | [] => 0
  | c :: cs => (16 * c.toNat + ((c :: cs).map Char.toNat).foldl (· + ·) 0) % 39

def aliasNames : Builtin := fun arguments => do
  let step (reply : Reply) (s : String) : Run Reply := do
    let front := s.toList.take 1
    let (rest, value) := nameValue (.ofList (s.toList.drop 1))
    let name := .ofList front ++ rest
    match value with
    | some text =>
      let aliases := (← get).aliases
      let aliases := if (aliases.lookup name).isNone then aliases ++ [(name, text)]
        else aliases.map fun a => if a.1 = name then (name, text) else a
      modify fun st => { st with aliases }
      return reply
    | none =>
      match (← get).aliases.lookup s with
      | some text => return { reply with text := reply.text ++ aliasLine s text }
      | none =>
        let _ ← write 2 s!"alias: {s} not found\n"
        return { reply with status := 1 }
  match ← operandsIn arguments with
  | [] =>
    let aliases := (← get).aliases.mergeSort fun a b => aliasPlace a.1 ≤ aliasPlace b.1
    return { text := String.join (aliases.map fun (name, text) => aliasLine name text) }
  | operands => operands.foldlM step {}

def unaliasNames : Builtin := fun arguments => do
  let (given, names) ← optionsIn [('a', false)] arguments
  if given ≠ [] then
    modify fun s => { s with aliases := [] }
    return {}
  let step (reply : Reply) (s : String) : Run Reply := do
    if ((← get).aliases.lookup s).isSome then
      modify fun st => { st with aliases := st.aliases.filter (·.1 ≠ s) }
      return reply
    else
      let _ ← write 2 s!"unalias: {s} not found\n"
      return { reply with status := 1 }
  names.foldlM step {}

end Mender.Machine.Shell
