import Mender.Machine.Shell.Builtin.Naming
import Mender.Machine.Tool.Escape

namespace Mender.Machine.Shell

open Files Run

def setLetter (letter : Char) (on : Bool) : Run Unit := do
  match optionTable.find? (·.2 = some letter) with
  | some (name, _) =>
    setOption name on
    if on ∧ letter = 'V' then setOption "emacs" false
    if on ∧ letter = 'E' then setOption "vi" false
  | none => abort s!"Illegal option -{letter}"

def optionListing (on : Bool) : Run String := do
  let set := (← get).options
  let line (name : String) : String :=
    let isOn := name ∈ set
    if on then
      let blanks := String.ofList (.replicate (16 - name.length) ' ')
      let shown := if isOn then "on" else "off"
      s!"{name}{blanks}{shown}\n"
    else
      let sign := if isOn then "-" else "+"
      s!"set {sign}o {name}\n"
  let lines := String.join (optionTable.map fun (name, _) => line name)
  return (if on then "Current option settings\n" else "") ++ lines

structure Setting where
  text : String := ""
  script : Bool := false
  operands : List String := []
  closed : Bool := false

/-- Carries out options given as arguments; at the start of a shell, `starting`, there are some
more. -/
def takeOptions (starting : Bool) : Nat → List String → Run Setting
  | 0, _ => return {}
  | _ + 1, [] => return {}
  | fuel + 1, s :: rest => do
    match s.toList with
    | ['-'] =>
      if !starting then
        setOption "xtrace" false
        setOption "verbose" false
      return { operands := rest }
    | ['-', '-'] => return { operands := rest, closed := true }
    | sign :: letters =>
      if sign = '-' ∨ sign = '+' then
        let mut rest := rest
        let mut done : Setting := {}
        for c in letters do
          if c = 'c' ∧ starting then done := { done with script := true }
          else if c = 'l' ∧ starting then pure ()
          else if c = 'o' then
            match rest with
            | [] => done := { done with text := done.text ++ (← optionListing (sign = '-')) }
            | name :: more =>
              if optionTable.any (·.1 = name) then setOption name (sign = '-')
              else abort s!"Illegal option -o {name}"
              rest := more
          else setLetter c (sign = '-')
        let later ← takeOptions starting fuel rest
        return { later with text := done.text ++ later.text, script := done.script || later.script }
      else return { operands := s :: rest }
    | [] => return { operands := s :: rest }

def resetOptionReading : Run Unit :=
  modify fun s => { s with optionIndex := 1, optionOffset := none }

def setOptions : Builtin := fun arguments => do
  if arguments = [] then return { text := ← listing "" (·.value.isSome) }
  let done ← takeOptions false (arguments.length + 1) arguments
  if done.operands ≠ [] ∨ done.closed then
    modify fun s => { s with arguments := done.operands }
    resetOptionReading
  return { text := done.text }

def shift : Builtin := fun arguments => do
  let n ← countIn 1 arguments
  if (← get).arguments.length < n then abort "can't shift that many"
  modify fun s => { s with arguments := s.arguments.drop n }
  resetOptionReading
  return {}

def placePath (p : Place) : String := "/" ++ "/".intercalate (p.map Text.encode)

def plainPath (here path : String) : String :=
  let front := if path.startsWith "/" then [] else Files.parts here
  let names := (Files.parts path).foldl (fun names name =>
    if name = "." then names
    else if name = ".." then names.dropLast
    else names ++ [name]) front
  "/" ++ "/".intercalate names

def startPaths (list path : String) : List String :=
  list.splitOn ":" |>.map fun dir => if dir = "" then path else dir ++ "/" ++ path

def isDirectory (files : Disk) (path : String) : Bool :=
  match files.directory (Tool.pathOf path) with
  | .ok _ => true
  | .error _ => false

def isAnchored (path : String) : Bool :=
  path.startsWith "/" || (Files.parts path).head? ∈ [some ".", some ".."]

def changeDirectory : Builtin := fun arguments => do
  let (given, operands) ← optionsIn [('L', false), ('P', false)] arguments
  let s ← get
  let back := operands.head? = some "-"
  let target ← match operands with
    | [] => pure ((← value? "HOME").getD "")
    | "-" :: _ => pure ((← value? "OLDPWD").getD "")
    | path :: _ => pure path
  let base := if target = "" then "." else target
  let found ← if isAnchored target then pure none
    else do
      let list := (← value? "CDPATH").getD ""
      pure ((startPaths list base).find? (isDirectory s.files ·))
  let path := found.getD target
  let here := placePath s.files.here
  let plain := if given.getLast?.map (·.1) = some 'P' then path else plainPath here path
  match s.files.directory (Tool.pathOf plain) with
  | .ok p =>
    let new := if given.getLast?.map (·.1) = some 'P' then placePath p else plain
    assign "OLDPWD" here
    assign "PWD" new
    modify fun s => { s with
      files := { s.files with here := p }
      bindings := s.bindings.map fun (name, v) =>
        (name, if name = "OLDPWD" ∨ name = "PWD" then { v with exported := true } else v) }
    let moved := found.isSome && found ≠ some base
    return { text := if back || moved then new ++ "\n" else "" }
  | .error _ => abort s!"can't cd to {target}"

def printDirectory : Builtin := fun arguments => do
  let _ ← optionsIn [('L', false), ('P', false)] arguments
  return { text := placePath (← get).files.here ++ "\n" }

def permissionBits (mode : Nat) (c : Char) : Option Nat :=
  match c with
  | 'r' => some 0o444
  | 'w' => some 0o222
  | 'x' => some 0o111
  | 'X' => some (if mode &&& 0o111 = 0 then 0 else 0o111)
  | 's' | 't' => some 0
  | 'u' => some (mode / 64 % 8 * 0o111)
  | 'g' => some (mode / 8 % 8 * 0o111)
  | 'o' => some (mode % 8 * 0o111)
  | _ => none

def changePermissions (who : Nat) : Nat → Nat → List Char → Option Nat
  | 0, mode, _ => some mode
  | _ + 1, mode, [] => some mode
  | fuel + 1, mode, sign :: cs => do
    let letters := cs.takeWhile (· ∉ ['+', '-', '='])
    let bits ← letters.mapM (permissionBits mode)
    let given := bits.foldl (· ||| ·) 0 &&& who
    let mode ← match sign with
      | '+' => some (mode ||| given)
      | '-' => some (mode - (mode &&& given))
      | '=' => some (mode - (mode &&& who) ||| given)
      | _ => none
    changePermissions who fuel mode (cs.drop letters.length)

def changeMode (mode : Nat) (cs : List Char) : Option Nat :=
  let users := cs.takeWhile (· ∈ ['u', 'g', 'o', 'a'])
  let bitsOf (c : Char) : Nat := match c with
    | 'u' => 0o700
    | 'g' => 0o070
    | 'o' => 0o007
    | _ => 0o777
  let who := if users = [] then 0o777 else (users.map bitsOf).foldl (· ||| ·) 0
  match cs.drop users.length with
  | [] => none
  | rest => changePermissions who (rest.length + 1) mode rest

def modeText (mode : Nat) : String :=
  let letters (n : Nat) : String :=
    (if n / 4 % 2 = 1 then "r" else "") ++ (if n / 2 % 2 = 1 then "w" else "") ++
      (if n % 2 = 1 then "x" else "")
  let (u, g, o) := (letters (mode / 64), letters (mode / 8), letters mode)
  s!"u={u},g={g},o={o}\n"

def setMask : Builtin := fun arguments => do
  let (given, operands) ← optionsIn [('S', false)] arguments
  let mask := (← get).mask
  match operands with
  | [] =>
    let digits := Nat.toDigits 8 mask
    let zeros := List.replicate (4 - digits.length) '0'
    return { text :=
      if given = [] then .ofList (zeros ++ digits ++ ['\n']) else modeText (0o777 - mask) }
  | s :: _ =>
    let cs := s.toList
    if cs.head?.any Char.isDigit then
      if !(cs.all Tool.isOctal) then abort s!"Illegal number: {s}"
      modify fun st => { st with mask := Tool.numberIn 8 cs % 0o1000 }
    else
      match (cs.splitOn ',').foldlM changeMode (0o777 - mask) with
      | some mode => modify fun st => { st with mask := 0o777 - mode }
      | none => abort s!"Illegal mode: {s}"
    return {}

end Mender.Machine.Shell
