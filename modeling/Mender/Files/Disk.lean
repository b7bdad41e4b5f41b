import Mender.Files.Fault

namespace Mender.Files

abbrev Place := List String

inductive Entry where
  | file (content : ByteArray)
  | directory
  deriving Inhabited

def Entry.isDirectory : Entry → Bool
  | directory => true
  | _ => false

/-- The place of the device that reads as nothing and swallows what is written. -/
def device : Place := ["dev", "null"]

structure Disk where
  entries : List (Place × Entry)
  here : Place

def join (base p : String) : String :=
  if p.startsWith "/" || base = "" then p
  else if base.endsWith "/" then base ++ p
  else base ++ "/" ++ p

def parts (path : String) : List String := (path.splitOn "/").filter (· ≠ "")

def nameLimit : Nat := 255

def pathLimit : Nat := 4095

namespace Disk

def entry? (s : Disk) (p : Place) : Option Entry :=
  if p = [] then some .directory
  else if p = device then some (.file .empty)
  else (s.entries.find? (·.1 = p)).map (·.2)

def put (s : Disk) (p : Place) (e : Entry) : Disk :=
  { s with entries := (p, e) :: s.entries.filter (·.1 ≠ p) }

def erase (s : Disk) (p : Place) : Disk :=
  { s with entries := s.entries.filter fun e => !p.isPrefixOf e.1 }

/-- The place that names lead to from `p`; only the last name may be missing. -/
def walk (s : Disk) (p : Place) : List String → Except Fault Place
  | [] => .ok p
  | name :: names =>
    match s.entry? p with
    | none => .error .notFound
    | some .directory =>
      if name = "." then s.walk p names
      else if name = ".." then s.walk p.dropLast names
      else if nameLimit < name.utf8ByteSize then .error .nameTooLong
      else s.walk (p ++ [name]) names
    | some (.file _) => .error .notDirectory

def locate (s : Disk) (path : String) : Except Fault Place :=
  if path = "" then .error .notFound
  else if path.contains '\x00' then .error .zeroByte
  else if pathLimit < path.utf8ByteSize then .error .nameTooLong
  else s.walk (if path.startsWith "/" then [] else s.here) (parts path)

def lookup (s : Disk) (path : String) : Except Fault (Place × Entry) := do
  let p ← s.locate path
  match s.entry? p with
  | none => .error .notFound
  | some .directory => return (p, .directory)
  | some e => if path.endsWith "/" then .error .notDirectory else return (p, e)

def exists? (s : Disk) (path : String) : Bool :=
  match s.lookup path with
  | .ok _ => true
  | .error _ => false

def read (s : Disk) (path : String) : Except Fault ByteArray := do
  match ← s.lookup path with
  | (_, .file content) => return content
  | (_, .directory) => .error .isDirectory

def readText (s : Disk) (path : String) : Except Fault String := do
  match String.fromUTF8? (← s.read path) with
  | some text => return text
  | none => .error .invalidText

def target (s : Disk) (path : String) : Except Fault Place := do
  let p ← s.locate path
  match s.entry? p with
  | none => if path.endsWith "/" then .error .isDirectory else return p
  | some .directory => .error .isDirectory
  | some _ => if path.endsWith "/" then .error .notDirectory else return p

def store (s : Disk) (p : Place) (content : ByteArray) : Disk :=
  if p = device then s else s.put p (.file content)

def write (s : Disk) (path : String) (content : ByteArray) : Except Fault Disk := do
  return s.store (← s.target path) content

def writeText (s : Disk) (path text : String) : Except Fault Disk :=
  s.write path text.toUTF8

def directory (s : Disk) (path : String) : Except Fault Place := do
  match ← s.lookup path with
  | (p, .directory) => return p
  | _ => .error .notDirectory

def makeAll (s : Disk) (p : Place) : Disk :=
  (List.range p.length).foldl (fun s i =>
    let q := p.take (i + 1)
    if (s.entry? q).isSome then s else s.put q .directory) s

def filesBelow (s : Disk) (p : Place) : List (String × ByteArray) :=
  s.entries.filterMap fun
    | (q, .file content) =>
      if p.isPrefixOf q then some ("/".intercalate (q.drop p.length), content) else none
    | _ => none

end Disk

end Mender.Files
