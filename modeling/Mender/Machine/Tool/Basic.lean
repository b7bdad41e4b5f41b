import Mender.Files.Disk
import Mender.Machine.Text.Octets

namespace Mender.Machine.Tool

open Files

inductive Chunk where
  | out (text : String)
  | err (text : String)
  deriving DecidableEq, Repr, Inhabited

structure Input where
  content : Except Fault ByteArray
  /-- The file it comes from and how much of it has been read. -/
  source : Option (Place × Nat)
  deriving Inhabited

def Input.size? (i : Input) : Option Nat := i.content.toOption.map ByteArray.size

def Input.text (i : Input) : Except Fault String := i.content.map Text.ofBytes

structure Output where
  /-- The file, if it is one, with the place in it, and whether all is written at its end. -/
  place : Option Place := none
  position : Nat := 0
  append : Bool := false
  closed : Bool := false
  lost : Bool := false
  deriving DecidableEq, Repr, Inhabited

structure Call where
  name : String
  arguments : List String
  input : Input
  output : Output
  files : Disk

structure Answer where
  status : Nat
  chunks : List Chunk
  files : Disk
  /-- How much of the input is left, as far as it was not read to its end. -/
  unread : Option Nat

end Mender.Machine.Tool

namespace Mender.Machine

abbrev Tool := Tool.Call → Tool.Answer

end Mender.Machine

namespace Mender.Machine.Tool

open Files

def Call.answer (c : Call) (status : Nat) (chunks : List Chunk) : Answer :=
  ⟨status, chunks, c.files, c.input.size?⟩

def pathOf (s : String) : String := Text.decode s

def readFile (files : Disk) (path : String) : Except Fault String :=
  (files.read (pathOf path)).map Text.ofBytes

def inputPaths : List String := ["/dev/stdin", "/dev/fd/0", "/proc/self/fd/0"]

def Call.read (c : Call) (path : String) : Except Fault String :=
  if path ∈ inputPaths then c.input.text else readFile c.files path

def Call.told (c : Call) (complaint : String) : Chunk := .err s!"{c.name}: {complaint}\n"

def Call.misused (c : Call) (complaint : String) : Answer :=
  c.answer 1 [c.told complaint, .err s!"Try '{c.name} --help' for more information.\n"]

def succeed : Tool := fun c => c.answer 0 []

def failing : Tool := fun c => c.answer 1 []

end Mender.Machine.Tool
