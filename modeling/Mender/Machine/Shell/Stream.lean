import Mender.Machine.Tool.Basic

namespace Mender.Machine.Shell

open Files Tool

inductive Medium where
  | queue (bytes : ByteArray)
  | file (place : Place)
  | directory
  | null
  deriving Inhabited

structure Stream where
  medium : Medium
  position : Nat := 0
  append : Bool := false
  readable : Bool := false
  writable : Bool := false
  deriving Inhabited

def overwrite (content : ByteArray) (position : Nat) (bytes : ByteArray) : ByteArray :=
  let front := content.extract 0 position
  let gap := ByteArray.mk (Array.replicate (position - front.size) 0)
  front ++ gap ++ bytes ++ content.extract (position + bytes.size) content.size

namespace Stream

def content (files : Disk) (s : Stream) : ByteArray :=
  match s.medium with
  | .queue bytes => bytes
  | .file p =>
    match files.entry? p with
    | some (.file content) => content
    | _ => .empty
  | _ => .empty

def left (files : Disk) (s : Stream) : ByteArray :=
  let content := s.content files
  content.extract s.position content.size

def leave (files : Disk) (unread : Nat) (s : Stream) : Stream :=
  { s with position := (s.content files).size - unread }

def write (files : Disk) (bytes : ByteArray) (s : Stream) : Stream × Disk :=
  match s.medium with
  | .queue content => ({ s with medium := .queue (content ++ bytes) }, files)
  | .file p =>
    match files.entry? p with
    | some (.file content) =>
      let position := if s.append then content.size else s.position
      ({ s with position := position + bytes.size },
        files.put p (.file (overwrite content position bytes)))
    | _ => (s, files)
  | _ => (s, files)

def toInput (files : Disk) (s : Stream) : Input :=
  let place := match s.medium with
    | .file p => some (p, s.position)
    | _ => none
  match s.readable, s.medium with
  | false, _ => ⟨.error .badDescriptor, place⟩
  | true, .directory => ⟨.error .isDirectory, none⟩
  | true, _ => ⟨.ok (s.left files), place⟩

def toOutput (s : Stream) : Output :=
  let closed := !s.writable
  match s.medium with
  | .file p => { place := some p, position := s.position, append := s.append, closed }
  | .null => { closed, lost := true }
  | _ => { closed }

end Stream

end Mender.Machine.Shell
