import Mender.Machine.Tool.Basic
import Mender.Machine.Tool.Options
import Mender.Machine.Tool.Quote

namespace Mender.Machine.Tool

open Files

def removeOptions : OptionSet where
  letters := "dfiIrRv".toList.map (·, .nothing)
  words := [("force", .nothing, "f"), ("interactive", .perhaps, "interactive"),
    ("one-file-system", .nothing, "one-file-system"),
    ("no-preserve-root", .nothing, "no-preserve-root"),
    ("preserve-root", .perhaps, "preserve-root"), ("recursive", .nothing, "r"),
    ("dir", .nothing, "d"), ("verbose", .nothing, "v"), ("help", .nothing, "help"),
    ("version", .nothing, "version")]

inductive Asking where
  | never
  | once
  | always
  deriving DecidableEq, Repr, Inhabited

structure RemoveStyle where
  force : Bool := false
  recursive : Bool := false
  emptyDirectories : Bool := false
  verbose : Bool := false
  root : Bool := false
  asking : Asking := .never
  mistaken : Option String := none
  deriving DecidableEq, Repr, Inhabited

def RemoveStyle.with (s : RemoveStyle) (option : Given) : RemoveStyle :=
  let asking (s : RemoveStyle) (a : Asking) : RemoveStyle := { s with asking := a, force := false }
  match option with
  | ("f", _) => { s with force := true, asking := .never }
  | ("i", _) => asking s .always
  | ("I", _) => asking s .once
  | ("interactive", none) => asking s .always
  | ("interactive", some w) =>
    let ways : List (String × Asking) := [("never", .never), ("no", .never), ("none", .never),
      ("once", .once), ("always", .always), ("yes", .always)]
    match ways.lookup w with
    | some .never => { s with asking := .never }
    | some a => asking s a
    | none => { s with mistaken := s.mistaken.orElse fun _ => some w }
  | ("r", _) | ("R", _) => { s with recursive := true }
  | ("d", _) => { s with emptyDirectories := true }
  | ("v", _) => { s with verbose := true }
  | ("no-preserve-root", _) => { s with root := true }
  | ("preserve-root", _) => { s with root := false }
  | _ => s

structure Removal where
  files : Disk
  answers : List String
  chunks : List Chunk := []
  status : Nat := 0

abbrev Removing := StateM Removal

namespace Removing

def say (chunk : Chunk) : Removing Unit := modify fun s => { s with chunks := chunk :: s.chunks }

def fail (c : Call) (text : String) : Removing Bool := do
  say (c.told text)
  modify fun s => { s with status := 1 }
  return false

def ask (c : Call) (question : String) : Removing Bool := do
  say (.err s!"{c.name}: {question}? ")
  let s ← get
  set { s with answers := s.answers.tail }
  return (s.answers.headD "").startsWith "y" || (s.answers.headD "").startsWith "Y"

def drop (style : RemoveStyle) (path kind : String) (p : Place) : Removing Bool := do
  modify fun s => { s with files := s.files.erase p }
  if style.verbose then say (.out s!"removed {kind}{shellQuoted path}\n")
  return true

def children (files : Disk) (p : Place) : List String :=
  (files.entries.filterMap fun (q, _) =>
    if q.dropLast = p ∧ q ≠ [] then q.getLast? else none).mergeSort (· ≤ ·)

def tree (c : Call) (style : RemoveStyle) : Nat → String → Place → Removing Bool
  | 0, _, _ => return false
  | fuel + 1, path, p => do
    let files := (← get).files
    let shown := shellQuoted path
    match files.entry? p with
    | some .directory =>
      match children files p with
      | [] =>
        if style.asking = .always then
          if !(← ask c s!"remove directory {shown}") then return false
        drop style path "directory " p
      | names =>
        if !style.recursive then fail c s!"cannot remove {shown}: Directory not empty"
        else
          if style.asking = .always then
            if !(← ask c s!"descend into directory {shown}") then return false
          let base := if path.endsWith "/" then path else path ++ "/"
          let gone ← names.mapM fun name => tree c style fuel (base ++ Text.encode name) (p ++ [name])
          if !gone.all id then return false
          if style.asking = .always then
            if !(← ask c s!"remove directory {shown}") then return false
          drop style path "directory " p
    | some (.file content) =>
      if p = device then return ← drop style path "" p
      let kind := if content.size = 0 then "regular empty file" else "regular file"
      if style.asking = .always then
        if !(← ask c s!"remove {kind} {shown}") then return false
      drop style path "" p
    | none => drop style path "" p

def operand (c : Call) (style : RemoveStyle) (path : String) : Removing Unit := do
  let files := (← get).files
  let shown := shellQuoted path
  match files.lookup (pathOf path) with
  | .error e =>
    if !(style.force && (e = .notFound || e = .notDirectory)) then
      let _ ← fail c s!"cannot remove {shown}: {e.reason}"
  | .ok (p, .directory) =>
    let last := (parts path).getLast?
    if !style.recursive ∧ !style.emptyDirectories then
      let _ ← fail c s!"cannot remove {shown}: Is a directory"
    else if style.recursive ∧ (last = some "." ∨ last = some "..") then
      let text := "refusing to remove '.' or '..' directory: skipping "
      let _ ← fail c (text ++ shown)
    else if style.recursive ∧ p = [] ∧ !style.root then
      say (c.told s!"it is dangerous to operate recursively on {shown}")
      let _ ← fail c "use --no-preserve-root to override this failsafe"
    else
      let _ ← tree c style (files.entries.length + 1) path p
  | .ok (p, _) =>
    let _ ← tree c style 1 path p

end Removing

def remove : Tool := fun c =>
  let sorted := removeOptions.read c.arguments
  let style := sorted.given.foldl RemoveStyle.with {}
  match style.mistaken, sorted.operands with
  | some w, _ =>
    c.answer 1 [c.told s!"invalid argument {quoted w} for '--interactive'",
      .err "Valid arguments are:\n  - 'never', 'no', 'none'\n  - 'once'\n  - 'always', 'yes'\n",
      .err s!"Try '{c.name} --help' for more information.\n"]
  | none, .error f => c.misused f.message
  | none, .ok paths =>
    if paths = [] then
      if style.force then c.answer 0 [] else c.misused "missing operand"
    else
      let text := (c.input.text.toOption).getD ""
      let start : Removal := ⟨c.files, text.splitOn "\n", [], 0⟩
      let all : Removing Unit := paths.forM (Removing.operand c style)
      let asked : Removing Unit := do
        if style.asking = .once ∧ (style.recursive ∨ 3 < paths.length) then
          let n := paths.length
          let noun := if n = 1 then "argument" else "arguments"
          let how := if style.recursive then " recursively" else ""
          if !(← Removing.ask c s!"remove {n} {noun}{how}") then return ()
        all
      let (_, s) := asked.run start
      { c.answer s.status s.chunks.reverse with files := s.files }

end Mender.Machine.Tool
