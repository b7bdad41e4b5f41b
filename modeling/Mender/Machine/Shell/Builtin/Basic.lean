import Mender.Machine.Shell.State

namespace Mender.Machine.Shell

open Run

structure Reply where
  text : String := ""
  status : Nat := 0
  deriving DecidableEq, Repr, Inhabited

abbrev Builtin := List String → Run Reply

def singleQuoted (s : String) : String :=
  let rec pieces : Nat → List Char → List Char
    | 0, _ => []
    | fuel + 1, cs =>
      let text := cs.takeWhile (· ≠ '\'')
      let rest := cs.drop text.length
      let marks := rest.takeWhile (· = '\'')
      let behind := rest.drop marks.length
      let front := '\'' :: text ++ ['\'']
      if marks = [] then front
      else
        let front := front ++ '"' :: marks ++ ['"']
        if behind = [] then front else front ++ pieces fuel behind
  .ofList (pieces (s.length + 1) s.toList)

def optionCluster (known : List (Char × Bool)) :
    List Char → Except Char (List (Char × String) × Option Char)
  | [] => .ok ([], none)
  | c :: cs => do
    match known.lookup c with
    | none => .error c
    | some true => return if cs = [] then ([], some c) else ([(c, .ofList cs)], none)
    | some false =>
      let (given, open_) ← optionCluster known cs
      return ((c, "") :: given, open_)

/-- The options in front, of which these letters are known, some of them with a value, and the
operands behind them. -/
def optionsIn (known : List (Char × Bool)) :
    List String → Run (List (Char × String) × List String)
  | [] => return ([], [])
  | s :: rest => do
    match s.toList with
    | ['-', '-'] => return ([], rest)
    | '-' :: c :: cs =>
      match optionCluster known (c :: cs), rest with
      | .error c, _ => abort s!"Illegal option -{c}"
      | .ok (_, some c), [] => abort s!"No arg for -{c} option"
      | .ok (front, some c), value :: rest =>
        let (given, operands) ← optionsIn known rest
        return (front ++ (c, value) :: given, operands)
      | .ok (front, none), rest =>
        let (given, operands) ← optionsIn known rest
        return (front ++ given, operands)
    | _ => return ([], s :: rest)

def operandsIn (arguments : List String) : Run (List String) :=
  return (← optionsIn [] arguments).2

def numberMost : Int := 2147483647

def numberIn (s : String) : Run Nat := do
  match Tool.word? (some 10) s with
  | some n => if 0 ≤ n ∧ n ≤ numberMost then return n.toNat else abort s!"Illegal number: {s}"
  | none => abort s!"Illegal number: {s}"

def countIn (default : Nat) : List String → Run Nat
  | [] => return default
  | s :: _ => numberIn s

def callOf (name : String) (arguments : List String) : Run Tool.Call := do
  let files := (← get).files
  let input : Tool.Input := match ← stream? 0 with
    | some stream => stream.toInput files
    | none => ⟨.error .badDescriptor, none⟩
  let output : Tool.Output := match ← stream? 1 with
    | some stream => stream.toOutput
    | none => { closed := true }
  return { name, arguments, input, output, files }

def takeOver (call : Tool.Call) (a : Tool.Answer) : Run Unit := do
  setFiles a.files
  if let some unread := a.unread then
    if call.input.size? ≠ some unread then
      if let some stream ← stream? 0 then setStream 0 (stream.leave a.files unread)

def textOut (chunks : List Tool.Chunk) : String :=
  String.join (chunks.map fun
    | .out text => text
    | .err _ => "")

def builtinOf (tool : Tool) : Builtin := fun arguments => do
  let name := .ofList ((← heading).toList.dropLast.dropLast)
  let call ← callOf name arguments
  let a := tool call
  takeOver call a
  for chunk in a.chunks do
    if let .err text := chunk then let _ ← write 2 text
  return ⟨textOut a.chunks, a.status⟩

end Mender.Machine.Shell
