import Mender.Machine.Shell.Word

namespace Mender.Machine.Shell

open Files Run

def openReason (missing : String) : Fault → String
  | .notFound | .notDirectory => missing
  | e => e.reason

def missingFile : String := "No such file"

def missingDirectory : String := "Directory nonexistent"

def namedDescriptor? (path : String) : Option Nat :=
  match path with
  | "/dev/stdin" => some 0
  | "/dev/stdout" => some 1
  | "/dev/stderr" => some 2
  | path =>
    let front := ["/dev/fd/", "/proc/self/fd/"].find? (path.startsWith ·)
    match front.map fun front => path.toList.drop front.length with
    | some [d] => if d.isDigit then some (d.toNat - 48) else none
    | _ => none

def placeStream (files : Disk) (p : Place) : Stream :=
  let medium : Medium :=
    if p = device then .null
    else match files.entry? p with
      | some (.file _) => .file p
      | some .directory => .directory
      | none => .null
  { medium }

def openForReading (files : Disk) (path : String) : Except Fault Stream :=
  match files.lookup (Tool.pathOf path) with
  | .ok (p, _) => .ok { placeStream files p with readable := true }
  | .error e => .error e

def openForWriting (files : Disk) (fresh : Bool) (path : String) :
    Except Fault (Stream × Disk) := do
  let p ← files.target (Tool.pathOf path)
  let files := match files.entry? p with
    | some (.file _) => if fresh then files.store p .empty else files
    | some _ => files
    | none => files.store p .empty
  return ({ placeStream files p with writable := true }, files)

def openTarget (direction : Direction) (text : String) : Run (Option Nat) := do
  let files := (← get).files
  let writing (fresh append readable : Bool) : Run (Option Nat) := do
    match openForWriting files fresh text with
    | .ok (stream, files) =>
      setFiles files
      return some (← openStream { stream with append, readable })
    | .error e =>
      let reason := openReason missingDirectory e
      refuse 2 s!"cannot create {text}: {reason}"
      return none
  let shared (i : Nat) : Run (Option Nat) := do
    match (← get).descriptors.lookup i with
    | some stream => return some stream
    | none =>
      refuse 2 s!"{i}: Bad file descriptor"
      return none
  let occupied : Bool := match files.lookup (Tool.pathOf text) with
    | .ok (p, .file _) => p ≠ device
    | _ => false
  match direction, namedDescriptor? text with
  | .document _, _ =>
    return some (← openStream { medium := .queue (Text.toBytes text), readable := true })
  | .share, _ => shared (text.toNat?.getD 0)
  | _, some i => shared i
  | .read, none =>
    match openForReading files text with
    | .ok stream => return some (← openStream stream)
    | .error e =>
      let reason := openReason missingFile e
      refuse 2 s!"cannot open {text}: {reason}"
      return none
  | .readWrite, none => writing false false true
  | .append, none => writing false true false
  | .overwrite, none => writing true false false
  | .write, none =>
    if occupied ∧ (← isOn "noclobber") then
      refuse 2 s!"cannot create {text}: File exists"
      return none
    else writing true false false

def targetText (substitute : Command → Run (List Char)) (r : Redirect) :
    Run (Nat × Direction × String) := do
  match r with
  | .mk descriptor direction target =>
    match direction with
    | .document index =>
      let word := ((← get).documents[index]?).getD []
      return (descriptor, direction, ← expandText substitute .nowhere word)
    | .share =>
      let text ← expandText substitute .front target
      let good := text = "-" || text.length = 1 && text.all Char.isDigit
      if !good then
        modify fun s => { s with line := s.reached }
        abort "Syntax error: Bad fd number"
      return (descriptor, direction, text)
    | _ => return (descriptor, direction, ← expandText substitute .front target)

def openAll : List (Nat × Direction × String) → Run Bool
  | [] => return true
  | (descriptor, direction, text) :: rest => do
    if direction = .share ∧ text = "-" then
      close descriptor
      openAll rest
    else
      match ← openTarget direction text with
      | some stream =>
        redirect descriptor stream
        openAll rest
      | none => return false

def applyRedirects (substitute : Command → Run (List Char)) (redirects : List Redirect) :
    Run Bool := do
  openAll (← redirects.mapM (targetText substitute))

end Mender.Machine.Shell
