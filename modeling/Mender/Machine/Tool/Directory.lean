import Mender.Machine.Tool.Basic
import Mender.Machine.Tool.Number
import Mender.Machine.Tool.Options
import Mender.Machine.Tool.Quote

namespace Mender.Machine.Tool

open Files

def makeOptions : OptionSet where
  letters := [('p', .nothing), ('m', .value), ('v', .nothing), ('Z', .nothing)]
  words := [("context", .perhaps, "Z"), ("mode", .value, "m"), ("parents", .nothing, "p"),
    ("verbose", .nothing, "v"), ("help", .nothing, "help"), ("version", .nothing, "version")]

def isMode (s : String) : Bool :=
  let change (cs : List Char) : Bool :=
    let signed := cs.dropWhile (· ∈ "ugoa".toList)
    signed.head?.any (· ∈ "+-=".toList) &&
      signed.all (· ∈ "+-=rwxXstugo01234567".toList)
  let ds := s.toList
  ds ≠ [] && (ds.all (fun d => '0' ≤ d && d ≤ '7') && decimal ds ≤ 7777 ||
    (ds.splitOn ',').all change)

def pathFronts (path : String) : List String :=
  let cs := path.toList
  let ends := (List.range cs.length).filter fun i =>
    cs[i]? ≠ some '/' && (cs[i + 1]?.all (· = '/'))
  let fronts := ends.map fun i => String.ofList (cs.take (i + 1))
  fronts.dropLast ++ [path]

def makeDirectory : Tool := fun c =>
  match makeOptions.read c.arguments with
  | ⟨_, .error f⟩ => c.misused f.message
  | ⟨given, .ok paths⟩ =>
    let has (key : String) : Bool := given.any (·.1 = key)
    let made (path : String) : List Chunk :=
      if has "v" then [.out s!"{c.name}: created directory {shellQuoted path}\n"] else []
    let refused (path : String) (e : Fault) : List Chunk :=
      [c.told s!"cannot create directory {quoted path}: {e.reason}"]
    -- What is made of one path; a directory that is there already may be as good.
    let one (mayBe : Bool) (files : Disk) (path : String) : Disk × List Chunk × Bool :=
      match files.locate (pathOf path) with
      | .error e => (files, refused path e, false)
      | .ok p =>
        match files.entry? p with
        | none => (files.put p .directory, made path, true)
        | some e =>
          if mayBe && e.isDirectory then (files, [], true)
          else (files, refused path .existing, false)
    let front (acc : Disk × List Chunk × Bool) (path : String) (last : Bool) :
        Disk × List Chunk × Bool :=
      let (files, chunks, going) := acc
      if !going then acc
      else
        let isFile : Bool := match files.lookup (pathOf path) with
          | .ok (_, .directory) => false
          | .ok _ => true
          | .error _ => false
        if isFile && !last then (files, chunks ++ refused path .notDirectory, false)
        else
          let (files, more, good) := one true files path
          (files, chunks ++ more, good)
    let step (acc : Disk × List Chunk × Nat) (path : String) : Disk × List Chunk × Nat :=
      let (files, chunks, status) := acc
      let (files, more, good) :=
        if has "p" ∧ path ≠ "" then
          let fronts := if (parts path) = [] then [path] else pathFronts path
          (fronts.zipIdx).foldl (fun acc (f, i) => front acc f (i + 1 = fronts.length))
            (files, [], true)
        else one false files path
      (files, chunks ++ more, if good then status else 1)
    let mode := ((given.filter (·.1 = "m")).getLast?.bind (·.2)).getD "755"
    if paths = [] then c.misused "missing operand"
    else if !isMode mode then c.answer 1 [c.told s!"invalid mode {quoted mode}"]
    else
      let (files, chunks, status) := paths.foldl step (c.files, [], 0)
      { c.answer status chunks with files }

end Mender.Machine.Tool
