import Mender.Machine.Tool.Basic
import Mender.Machine.Tool.Options
import Mender.Machine.Tool.Quote

namespace Mender.Machine.Tool

open Files

structure CatStyle where
  numbered : Bool := false
  onlyFull : Bool := false
  ends : Bool := false
  tabs : Bool := false
  controls : Bool := false
  squeezed : Bool := false
  deriving DecidableEq, Repr, Inhabited

def catOptions : OptionSet where
  letters := "AbeEnstTuv".toList.map (·, .nothing)
  words := [("number-nonblank", .nothing, "b"), ("number", .nothing, "n"),
    ("squeeze-blank", .nothing, "s"), ("show-nonprinting", .nothing, "v"),
    ("show-ends", .nothing, "E"), ("show-tabs", .nothing, "T"), ("show-all", .nothing, "A"),
    ("help", .nothing, "help"), ("version", .nothing, "version")]

def CatStyle.with (s : CatStyle) (option : Given) : CatStyle :=
  match option.1 with
  | "b" => { s with numbered := true, onlyFull := true }
  | "n" => { s with numbered := true }
  | "s" => { s with squeezed := true }
  | "v" => { s with controls := true }
  | "e" => { s with controls := true, ends := true }
  | "E" => { s with ends := true }
  | "t" => { s with controls := true, tabs := true }
  | "T" => { s with tabs := true }
  | "A" => { s with controls := true, ends := true, tabs := true }
  | _ => s

def CatStyle.shown (s : CatStyle) (c : Char) : List Char :=
  let low (n : Nat) : List Char :=
    if n < 32 then ['^', Char.ofNat (n + 64)]
    else if n = 127 then ['^', '?']
    else [Char.ofNat n]
  if c = '\t' then if s.tabs then ['^', 'I'] else [c]
  else if !s.controls then [c]
  else if c.toNat < 128 then low c.toNat
  else 'M' :: '-' :: low (c.toNat - 128)

structure CatState where
  blank : Option Nat := some 0
  number : Nat := 0

def CatStyle.char (style : CatStyle) (s : CatState) (c : Char) (next : Option Char) :
    CatState × List Char :=
  let numberText (n : Nat) : List Char :=
    let ds := Nat.toDigits 10 n
    .replicate (6 - ds.length) ' ' ++ ds ++ ['\t']
  let stop : List Char := if style.ends then ['$', '\n'] else ['\n']
  if c = '\n' then
    match s.blank with
    | none => ({ s with blank := some 0 }, stop)
    | some n =>
      if 1 ≤ n ∧ style.squeezed then (s, [])
      else
        let s := { s with blank := some (n + 1) }
        if style.numbered ∧ !style.onlyFull then
          ({ s with number := s.number + 1 }, numberText (s.number + 1) ++ stop)
        else (s, stop)
  else
    let text := if c = '\r' ∧ next = some '\n' ∧ style.ends then ['^', 'M'] else style.shown c
    match s.blank with
    | none => (s, text)
    | some _ =>
      if style.numbered then (⟨none, s.number + 1⟩, numberText (s.number + 1) ++ text)
      else ({ s with blank := none }, text)

def CatStyle.apply (style : CatStyle) (s : CatState) (text : String) : CatState × String :=
  let cs := text.toList
  let step (acc : CatState × List (List Char)) (c : Char × Option Char) :
      CatState × List (List Char) :=
    let (s, shown) := style.char acc.1 c.1 c.2
    (s, shown :: acc.2)
  let (s, shown) := (cs.zip (cs.tail.map some ++ [none])).foldl step (s, [])
  (s, .ofList shown.reverse.flatten)

/-- Whether a file would be copied to its own end. -/
def Call.runsInto (c : Call) (place : Place) (position size : Nat) : Bool :=
  c.output.place = some place && position < size &&
    (c.output.append || position < c.output.position)

def Call.concatenated (c : Call) (style : CatStyle) (paths : List String) : Answer :=
  let sizeOf (place : Place) : Nat := match c.files.entry? place with
    | some (.file content) => content.size
    | _ => 0
  let isInput (path : String) : Bool := path = "-" || path ∈ inputPaths
  let source (path : String) : Option (Place × Nat) :=
    if isInput path then c.input.source
    else match c.files.lookup (pathOf path) with
      | .ok (p, .file _) => some (p, 0)
      | _ => none
  let step (acc : CatState × Bool × List Chunk × Nat) (path : String) :
      CatState × Bool × List Chunk × Nat :=
    let (s, used, chunks, status) := acc
    let text := if !isInput path then readFile c.files path
      else if used then c.input.content.map fun _ => ""
      else c.input.text
    let used := used || isInput path
    let refused (reason : String) : CatState × Bool × List Chunk × Nat :=
      (s, used, c.told s!"{shellWord true path}: {reason}" :: chunks, 1)
    match text with
    | .error e => refused e.reason
    | .ok text =>
      if (source path).any fun (p, n) => c.runsInto p n (sizeOf p) then
        refused "input file is output file"
      else if style = {} then (s, used, .out text :: chunks, status)
      else
        let (s, shown) := style.apply s text
        (s, used, .out shown :: chunks, status)
  let (_, used, chunks, status) := paths.foldl step ({}, false, [], 0)
  let open_ : Bool := match c.input.content with
    | .error .badDescriptor => false
    | _ => true
  let chunks := if used ∧ !open_ then
      c.told "closing standard input: Bad file descriptor" :: chunks
    else chunks
  let a := c.answer status chunks.reverse
  if used then { a with unread := some 0 } else a

def cat : Tool := fun c =>
  match catOptions.read c.arguments with
  | ⟨_, .error f⟩ => c.misused f.message
  | ⟨given, .ok paths⟩ =>
    if c.output.closed then c.answer 1 [c.told "standard output: Bad file descriptor"]
    else c.concatenated (given.foldl CatStyle.with {}) (if paths = [] then ["-"] else paths)

end Mender.Machine.Tool
