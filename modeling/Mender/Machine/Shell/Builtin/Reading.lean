import Mender.Machine.Shell.Builtin.Basic

namespace Mender.Machine.Shell

open Run Machine.Text

/-- The pieces of a line, in which a backslash quotes what is behind it unless it is `raw`, and how
many characters were read. None are left where the input ends, which is told too. -/
def linePieces (raw : Bool) : List Char → List Piece × Nat × Bool
  | [] => ([], 0, false)
  | '\n' :: _ => ([], 1, true)
  | '\x00' :: cs =>
    let (ps, n, ended) := linePieces raw cs
    (ps, n + 1, ended)
  | '\\' :: cs =>
    if raw then
      let (ps, n, ended) := linePieces raw cs
      (.split [['\\']] :: ps, n + 1, ended)
    else match cs with
      | [] => ([], 1, false)
      | c :: rest =>
        let (ps, n, ended) := linePieces raw rest
        (if c = '\n' then ps else .glyphs [(c, true)] :: ps, n + 2, ended)
  | c :: cs =>
    let (ps, n, ended) := linePieces raw cs
    (.split [[c]] :: ps, n + 1, ended)

def lineSize (raw : Bool) (bytes : ByteArray) : Nat → Nat → Nat
  | 0, at_ => at_
  | fuel + 1, at_ =>
    match bytes[at_]? with
    | none => at_
    | some 10 => at_ + 1
    | some 92 => lineSize raw bytes fuel (if raw then at_ + 1 else at_ + 2)
    | some _ => lineSize raw bytes fuel (at_ + 1)

def joinSplit : List Piece → List Piece
  | [] => []
  | .split [cs] :: ps =>
    match joinSplit ps with
    | .split [ds] :: qs => .split [cs ++ ds] :: qs
    | qs => .split [cs] :: qs
  | p :: ps => p :: joinSplit ps

def readNames : Builtin := fun arguments => do
  let (given, names) ← optionsIn [('p', true), ('r', false)] arguments
  if names = [] then abort "arg count"
  let raw := given.any (·.1 = 'r')
  let files := (← get).files
  let stream := ((← stream? 0).filter (·.readable)).getD { medium := .null }
  let left := stream.left files
  let line := left.extract 0 (lineSize raw left left.size 0)
  let (pieces, count, ended) := linePieces raw (Text.charsOfBytes line)
  setStream 0 (stream.leave files (left.size - count))
  let fields := fieldsOf (← separators) (some names.length) (joinSplit pieces)
  for (name, i) in names.zipIdx do
    checkName name
    assign name (((fields[i]?).map textOf).getD "")
  return { status := if ended then 0 else 1 }

structure OptionRead where
  letter : Char := '?'
  value : Option String := none
  complaint : Option String := none
  index : Nat
  offset : Option Nat := none
  ended : Bool := false

def optionLetter? (c : Char) : List Char → Option Bool
  | [] => none
  | d :: ':' :: ds => if c = d then some true else optionLetter? c ds
  | d :: ds => if c = d then some false else optionLetter? c ds

def readOption (known : List Char) (arguments : List String) (index : Nat) (offset : Option Nat) :
    OptionRead :=
  let inside : List Char := match offset with
    | some n => if index ≤ 1 then [] else ((arguments[index - 2]?).getD "").toList.drop n
    | none => []
  let next := (arguments[index - 1]?).getD ""
  let silent := known.head? = some ':'
  let option (cs : List Char) (index : Nat) : OptionRead :=
    match cs with
    | [] => { index, ended := true }
    | c :: rest =>
      let size := ((arguments[index - 2]?).getD "").length
      let offset := some (size - rest.length)
      match optionLetter? c known with
      | none =>
        if silent then { value := some (.singleton c), index, offset }
        else { complaint := some s!"Illegal option -{c}\n", index, offset }
      | some false => { letter := c, value := some "", index, offset }
      | some true =>
        match rest, arguments[index - 1]? with
        | [], none =>
          if silent then { letter := ':', value := some (.singleton c), index }
          else { complaint := some s!"No arg for -{c} option\n", index }
        | [], some value => { letter := c, value := some value, index := index + 1 }
        | rest, _ => { letter := c, value := some (.ofList rest), index }
  if inside ≠ [] then option inside index
  else match next.toList with
    | ['-', '-'] => { index := index + 1, ended := true }
    | '-' :: c :: cs => option (c :: cs) (index + 1)
    | _ => { index, ended := true }

def getOptions : Builtin := fun arguments => do
  match ← operandsIn arguments with
  | known :: name :: given =>
    let s ← get
    let arguments := if given = [] then s.arguments else given
    let fresh := s.optionIndex > arguments.length + 1
    let index := if fresh then 1 else s.optionIndex
    let offset := if fresh then none else s.optionOffset
    let r := readOption known.toList arguments index offset
    if let some text := r.complaint then
      let _ ← write 2 text
      unassign "OPTARG"
    if let some value := r.value then assign "OPTARG" value
    bind "OPTIND" (toString r.index)
    checkName name
    assign name (.singleton r.letter)
    modify fun s => { s with optionIndex := r.index, optionOffset := r.offset }
    return { status := if r.ended then 1 else 0 }
  | _ => abort "Usage: getopts optstring var [arg...]"

end Mender.Machine.Shell
