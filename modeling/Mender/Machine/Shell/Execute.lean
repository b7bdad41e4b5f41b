import Mender.Machine.Shell.Builtin
import Mender.Machine.Shell.Redirect

/-!
Carrying out scripts. Each step spends fuel; a script that spends it all is stopped as if it had
used up the memory that it may have.
-/

namespace Mender.Machine.Shell

open Files Run Machine.Text

structure Mode where
  /-- Whether something is made of its status, so that a failure ends nothing. -/
  tested : Bool := false
  last : Bool := false
  deriving DecidableEq, Repr, Inhabited

def overflow : Interrupt := .killed 11 true

def callLimit : Nat := 1000

def writeChunks : List Tool.Chunk → Run Bool
  | [] => return true
  | .err text :: rest => do
    let _ ← write 2 text
    writeChunks rest
  | .out text :: rest => do
    let done ← write 1 text
    return (← writeChunks rest) && done

def useTool (tool : Tool) (name : String) (arguments : List String) : Run Unit := do
  let call ← callOf name arguments
  let a := tool call
  takeOver call a
  if ← writeChunks a.chunks then setStatus a.status
  else
    let _ ← write 2 s!"{name}: write error: Bad file descriptor\n"
    setStatus (if name = "grep" then 2 else 1)

def standardVariables (files : Disk) : List (String × Variable) :=
  [("IFS", { value := some " \t\n" }), ("OPTIND", { value := some "1" }),
    ("PS1", { value := some "# " }), ("PS2", { value := some "> " }),
    ("PS4", { value := some "+ " }), ("PATH", { value := some standardPath }),
    ("PPID", { value := some "1" }),
    ("PWD", { value := some (placePath files.here), exported := true })]

def startVariables (files : Disk) (given : List (String × Variable)) : List (String × Variable) :=
  let fixed := ["IFS", "OPTIND", "PPID", "PWD"]
  let kept := given.filter fun (name, v) =>
    v.exported && v.value.isSome && !fixed.contains name && isName name.toList
  let kept := kept.map fun (name, v) => (name, { v with readonly := false })
  kept ++ (standardVariables files).filter fun (name, _) => (kept.lookup name).isNone

def State.restarted (s : State) (name : String) : State where
  files := s.files
  streams := s.streams
  descriptors := s.descriptors
  name
  caller := none
  arguments := []
  bindings := startVariables s.files s.bindings
  scopes := []
  savedOptions := []
  functions := []
  aliases := []
  documents := #[]
  options := []
  traps := inheritedTraps s.traps
  trapped := none
  split := false
  caught := []
  process := s.nextProcess
  nextProcess := s.nextProcess + 1
  lastProcess := none
  ended := []
  status := 0
  line := 0
  reached := 1
  loops := 0
  calls := 0
  substituted := 0
  optionIndex := 1
  optionOffset := none
  tracked := []
  mask := s.mask

inductive Turn (α : Type) where
  | done (a : α)
  | next
  | left

def turn {α : Type} (body : Run α) : Run (Turn α) := do
  let outer := (← get).loops
  let leave : Run Unit := modify fun s => { s with loops := outer }
  modify fun s => { s with loops := outer + 1 }
  try
    let a ← body
    leave
    return .done a
  catch i =>
    leave
    match i with
    | .broken n => if n ≤ 1 then return .left else throw (.broken (n - 1))
    | .continued n => if n ≤ 1 then return .next else throw (.continued (n - 1))
    | i => throw i

def finishBuiltin (name : String) (reply : Reply) : Run Unit := do
  if ← write 1 reply.text then setStatus reply.status
  else
    complain s!"{name}: I/O error"
    setStatus (reply.status ||| 1)

def asBuiltin (special : Bool) (name : String) (body : Run Unit) : Run Unit :=
  calling name do
    try body catch
      | .failed => if special then throw .failed
      | i => throw i

def trapless : Run Bool := return (← get).traps.all (·.2 = "")

def traceFront (substitute : Command → Run (List Char)) : Run String := do
  let text := (← value? "PS4").getD ""
  if !(text.toList.any (· ∈ ['$', '\x60', '\\'])) then return text
  let size := 20 * text.length + 100
  match (parts size (.double false)).run { rest := text.toList ++ ['"'] } with
  | .ok (word, _) => expandText substitute .nowhere word
  | .error _ => return text

def trace (substitute : Command → Run (List Char)) (outer : List (Nat × Nat))
    (words : List String) : Run Unit := do
  if ← isOn "xtrace" then
    setOption "xtrace" false
    let front ← traceFront substitute
    setOption "xtrace" true
    let inner := (← get).descriptors
    modify fun s => { s with descriptors := outer }
    let _ ← write 2 (front ++ " ".intercalate words ++ "\n")
    modify fun s => { s with descriptors := inner }

structure Chosen where
  fields : List String
  rest : List Word
  /-- Whether it was called through another command, which knows no functions. -/
  through : Bool := false
  standard : Bool := false

def firstFields (substitute : Command → Run (List Char)) :
    List Word → Run (List String × List Word)
  | [] => return ([], [])
  | w :: ws => do
    match ← expandField substitute w with
    | [] => firstFields substitute ws
    | fields => return (fields, ws)

def peel (substitute : Command → Run (List Char)) : Nat → Chosen → Run Chosen
  | 0, c => return c
  | fuel + 1, c => do
    if c.fields.head? ≠ some "command" then return c
    let next (c : Chosen) : Run Chosen := do
      match c.fields with
      | [name] =>
        let (fields, rest) ← firstFields substitute c.rest
        return { c with fields := name :: fields, rest }
      | _ => return c
    let c ← next c
    match c.fields with
    | name :: first :: rest =>
      match first.toList with
      | ['-', '-'] =>
        let c ← next { c with fields := name :: rest }
        match c.fields with
        | _ :: b :: rest => peel substitute fuel { c with fields := b :: rest, through := true }
        | _ => return { c with through := false }
      | '-' :: o :: os =>
        if (o :: os).all (· = 'p') then
          peel substitute fuel { c with fields := name :: rest, standard := true }
        else return { c with through := false }
      | _ => peel substitute fuel { c with fields := first :: rest, through := true }
    | _ => return c

def argumentFields (substitute : Command → Run (List Char)) (assigning : Bool) (w : Word) :
    Run (List String) := do
  if assigning ∧ (assignment? w).isSome then return [← expandText substitute .fronts w]
  else expandField substitute w

def assignAll (substitute : Command → Run (List Char)) (set : String → String → Run Unit)
    (assignments : List (String × Word)) : Run (List String) :=
  assignments.mapM fun (name, word) => do
    let value ← expandText substitute .fronts word
    set name value
    return s!"{name}={value}"

def assignLocally (name value : String) : Run Unit := do
  makeLocal name
  assign name value
  setVariable name { ((← binding? name).getD {}) with exported := true }

def assignExported (name value : String) : Run Unit := do
  assign name value
  setVariable name { ((← binding? name).getD {}) with exported := true }

def nextCommand (r : Reading) : Run (Except SyntaxFault (Command × Reading)) := do
  let s ← get
  let r := { r with aliases := s.aliases, documents := s.documents }
  let fuel := 40 * r.rest.length + 200
  match (commands fuel true false).run r with
  | .ok (c, r) =>
    modify fun s => { s with documents := r.documents }
    return .ok (c, { r with documents := #[] })
  | .error f => return .error f

def Reading.isAtEnd (r : Reading) : Bool := r.again && r.token = .endOfFile

/-- Where a script comes from: a text at hand, or lines that are read, which can be shown. -/
inductive Origin where
  | text
  | lines
  deriving DecidableEq, Repr, Inhabited

def commandFile (path : String) : Run String := do
  if path.contains '/' then return path
  let files := (← get).files
  let isFile (path : String) : Bool := match files.lookup (Tool.pathOf path) with
    | .ok (p, .file _) => p ≠ device
    | _ => false
  match (startPaths (← pathVariable) path).find? isFile with
  | some found => if found.contains '/' then return found else return "./" ++ found
  | none => abort s!"{path}: not found"

mutual

def runScript : Nat → Mode → Origin → Bool → Reading → Run Bool
  | 0, _, _, _, _ => throw overflow
  | fuel + 1, mode, origin, any, reading => do
    match ← nextCommand reading with
    | .error f =>
      modify fun s => { s with line := f.line }
      abort f.message
    | .ok (c, next) =>
      if origin = .lines ∧ (← isOn "verbose") then
        let size := reading.rest.length - next.rest.length
        let _ ← write 2 (.ofList (reading.rest.take size))
      let isSkip : Bool := match c with
        | .skip => true
        | _ => false
      if !isSkip then
        let outer := (← get).reached
        modify fun s => { s with reached := next.line }
        execute fuel { mode with last := mode.last && next.isAtEnd } c
        modify fun s => { s with reached := outer }
      let any := any || !isSkip
      if next.isAtEnd then return any
      else runScript fuel mode origin any next

def substitute : Nat → Command → Run (List Char)
  | 0, _ => throw overflow
  | _ + 1, .skip => return []
  | fuel + 1, c => do
    let outer := (← get).status
    let i ← openStream { medium := .queue .empty, writable := true }
    let body : Run Unit := do
      redirect 1 i
      execute fuel { last := true } c
    mourn (← apart body (runExitTrap fuel))
    let s ← get
    let bytes := ((s.streams[i]?).map (·.content s.files)).getD .empty
    set { s with substituted := s.status, status := outer }
    return Text.charsOfBytes bytes

def runExitTrap : Nat → Run Unit
  | 0 => throw overflow
  | fuel + 1 => do
    let s ← get
    if let some action := s.traps.lookup 0 then
      if action ≠ "" then
        set { s with traps := s.traps.filter (·.1 ≠ 0), trapped := some s.status, loops := 0 }
        try
          let _ ← runScript fuel {} .text false { rest := action.toList }
          setStatus s.status
        catch
          | .killed signal whole => throw (.killed signal whole)
          | .returned => setStatus s.status
          | _ => pure ()

def runTraps : Nat → Run Unit
  | 0 => throw overflow
  | fuel + 1 => do
    let s ← get
    if !s.split then
      match s.caught.mergeSort (· ≤ ·) with
      | [] => return ()
      | signal :: rest =>
        set { s with caught := rest }
        match s.traps.lookup signal with
        | none => if !isHarmless signal then throw (.killed signal true)
        | some action =>
          if action ≠ "" then
            modify fun s => { s with trapped := some (s.trapped.getD s.status) }
            let _ ← runScript fuel {} .text false { rest := action.toList }
            modify fun t => { t with status := s.status, trapped := s.trapped }
        runTraps fuel

/-- Carries out a shell of its own; the answer is the signal that ended it, if one did. -/
def runShell : Nat → String → List String → Run (Option Nat)
  | 0, _, _ => throw overflow
  | fuel + 1, name, arguments => do
    let outer ← get
    set (outer.restarted name)
    let rejoin : Run Unit := modify fun s => { outer with
      files := { s.files with here := outer.files.here }
      streams := s.streams
      nextProcess := s.nextProcess
      status := s.status }
    try
      try startShell fuel arguments catch
        | .killed signal whole => throw (.killed signal whole)
        | .failed => setStatus 2
        | _ => pure ()
      runExitTrap fuel
      modify fun s => { s with status := s.status % 256 }
      rejoin
      return none
    catch
      | .killed signal _ =>
        rejoin
        setStatus (128 + signal)
        return some signal
      | _ =>
        rejoin
        return none

def startShell : Nat → List String → Run Unit
  | 0, _ => throw overflow
  | fuel + 1, arguments => do
    let call ← takeOptions true (arguments.length + 1) arguments
    let _ ← write 1 call.text
    let carryOut (origin : Origin) (text : List Char) : Run Unit := do
      modify fun s => { s with line := 1 }
      let _ ← runScript fuel {} origin false { rest := text }
    let fromInput : Run Unit := do
      let files := (← get).files
      let stream := ((← stream? 0).filter (·.readable)).getD { medium := .null }
      setStream 0 (stream.leave files 0)
      carryOut .lines (Text.charsOfBytes (stream.left files))
    let takeArguments (operands : List String) : Run Unit :=
      modify fun s => { s with name := operands.headD s.name, arguments := operands.tail }
    match call.script, call.operands with
    | true, [] => abort "-c requires an argument"
    | true, script :: operands =>
      let more ← isOn "stdin"
      takeArguments operands
      carryOut .text script.toList
      if more then fromInput
    | false, operands =>
      if operands = [] ∨ (← isOn "stdin") then
        setOption "stdin" true
        modify fun s => { s with arguments := operands }
        fromInput
      else
        let path := operands.headD ""
        let files := (← get).files
        match openForReading files path with
        | .ok stream =>
          takeArguments operands
          carryOut .lines (Text.charsOfBytes (stream.left files))
        | .error e =>
          let reason := openReason missingFile e
          abort s!"cannot open {path}: {reason}"

/-- Runs a program. Where it takes the place of the shell (`last`), the shell ends as it does. -/
def runProgram : Nat → Bool → String → List String → Program → Run Unit
  | 0, _, _, _, _ => throw overflow
  | fuel + 1, last, name, arguments, program => do
    match program with
    | .tool t => useTool t name arguments
    | .shell =>
      let signal ← runShell fuel name arguments
      match signal with
      | some n => if last then throw (.killed n false) else mourn (some n)
      | none => return ()

def runExternal : Nat → Bool → String → String → List String → Run Unit
  | 0, _, _, _, _ => throw overflow
  | fuel + 1, last, path, name, arguments => do
    match ← lookFor path name with
    | .ok (_, program) =>
      track name
      if fitsArguments (name :: arguments) then runProgram fuel last name arguments program
      else refuse 126 s!"{name}: Argument list too long"
    | .error e =>
      let reason := startReason e
      refuse (if name.contains '/' then startStatus e else 127) s!"{name}: {reason}"

def runFunction : Nat → Bool → Command → List String → Run Unit
  | 0, _, _, _ => throw overflow
  | fuel + 1, tested, body, arguments => do
    let outer ← get
    if outer.calls = callLimit then
      abort s!"Maximum function recursion depth ({callLimit}) reached"
    let restore : Run Unit := modify fun s => { s with
      arguments := outer.arguments
      loops := outer.loops
      calls := outer.calls
      optionIndex := outer.optionIndex
      optionOffset := outer.optionOffset }
    set { outer with
      arguments, loops := 0, calls := outer.calls + 1, optionIndex := 1, optionOffset := none }
    try
      execute fuel { tested } body
      restore
    catch i =>
      restore
      if i ≠ .returned then throw i

def runFile : Nat → Bool → List String → Run Unit
  | 0, _, _ => throw overflow
  | fuel + 1, tested, arguments => do
    match ← operandsIn arguments with
    | [] => setStatus 0
    | path :: _ =>
      let found ← commandFile path
      let files := (← get).files
      match openForReading files found with
      | .error e =>
        let reason := openReason missingFile e
        abort s!"cannot open {found}: {reason}"
      | .ok stream =>
        let text := Text.charsOfBytes (stream.left files)
        calling found do
          try
            let any ← runScript fuel { tested } .lines false { rest := text }
            if !any then setStatus 0
          catch
            | .returned => pure ()
            | i => throw i

def runBuiltin : Nat → Mode → Bool → String → List String → Run Unit
  | 0, _, _, _, _ => throw overflow
  | fuel + 1, mode, special, name, arguments =>
    asBuiltin special name do
      match name with
      | "eval" =>
        let text := " ".intercalate arguments
        let any ← runScript fuel { tested := mode.tested } .text false { rest := text.toList }
        if !any then setStatus 0
      | "." => runFile fuel mode.tested arguments
      | "exec" =>
        match ← operandsIn arguments with
        | [] => setStatus 0
        | program :: arguments =>
          match ← lookFor (← pathVariable) program with
          | .ok (_, p) =>
            if fitsArguments (program :: arguments) then
              modify fun s => { s with traps := inheritedTraps s.traps }
              runProgram fuel true program arguments p
            else refuse 126 s!"{program}: Argument list too long"
          | .error e =>
            let reason := startReason e
            refuse (startStatus e) s!"{program}: {reason}"
          throw .exited
      | name =>
        match builtin? name with
        | some act => finishBuiltin name (← act arguments)
        | none => return ()

def runWords : Nat → Mode → Bool → Chosen → List String → Run Unit
  | 0, _, _, _, _ => throw overflow
  | fuel + 1, mode, special, c, words => do
    let name := words.headD ""
    let arguments := words.tail
    let s ← get
    match if c.through then none else s.functions.lookup name with
    | some body => runFunction fuel mode.tested body arguments
    | none =>
      if builtinNames.contains name then runBuiltin fuel mode special name arguments
      else
        let path ← if c.standard then pure standardPath else pathVariable
        runExternal fuel (mode.last && (← trapless)) path name arguments

def runSimple : Nat → Mode → List (String × Word) → List Word → List Redirect → Run Unit
  | 0, _, _, _, _ => throw overflow
  | fuel + 1, mode, assignments, words, redirects => do
    let sub := substitute fuel
    modify fun s => { s with substituted := 0 }
    let (fields, rest) ← firstFields sub words
    let isFunction := (← get).functions.any (fields.head? = some ·.1)
    let c ← if isFunction then pure { fields, rest }
      else peel sub (words.length + 1) { fields, rest }
    let name := c.fields.headD ""
    let plain := (isFunction && !c.through) || !builtinNames.contains name
    let assigning := !plain && takesAssignments name
    let more ← c.rest.mapM (argumentFields sub assigning)
    let words := c.fields ++ more.flatten
    let special := !isFunction && !c.through && isSpecialCommand name
    let outer := (← get).descriptors
    let replaces := !plain && name = "exec"
    let body : Run Unit := do
      if !(← applyRedirects sub redirects) then
        if special then throw .failed
      else if words = [] then
        let shown ← assignAll sub assign assignments
        if shown ≠ [] then trace sub outer shown
        setStatus (← get).substituted
      else if special then
        let set := if replaces ∧ words.tail ≠ [] then assignExported else assign
        let shown ← assignAll sub set assignments
        trace sub outer (shown ++ words)
        runWords fuel mode special c words
      else
        let inner : Run Unit := do
          let shown ← assignAll sub assignLocally assignments
          trace sub outer (shown ++ words)
          runWords fuel mode special c words
        if assignments.isEmpty ∧ plain = false then inner else withScope inner
    if replaces ∧ words.tail.isEmpty then body else restoring body

def execute : Nat → Mode → Command → Run Unit
  | 0, _, _ => throw overflow
  | fuel + 1, mode, command => do
    if ← isOn "noexec" then return ()
    let tested := mode.tested
    let checked : Run Unit := do
      runTraps fuel
      if !tested ∧ (← get).status ≠ 0 ∧ (← isOn "errexit") then throw .exited
    let at_ (line : Nat) : Run Unit := modify fun s => { s with line }
    match command with
    | .skip => return ()
    | .simple line assignments words redirects =>
      at_ line
      runSimple fuel mode assignments words redirects
      checked
    | .negate c =>
      execute fuel { tested := true } c
      setStatus (if (← get).status = 0 then 1 else 0)
    | .pipe commands background =>
      if background then
        inBackground fuel fun input => runStages fuel mode input commands
        setStatus 0
      else
        runStages fuel mode none commands
        checked
    | .both a b =>
      execute fuel { tested := true } a
      if (← get).status = 0 then execute fuel mode b
    | .either a b =>
      execute fuel { tested := true } a
      if (← get).status ≠ 0 then execute fuel mode b
    | .sequence a b =>
      execute fuel { tested } a
      execute fuel mode b
    | .branch condition yes no =>
      execute fuel { tested := true } condition
      if (← get).status = 0 then execute fuel mode yes
      else match no with
        | some no => execute fuel mode no
        | none => setStatus 0
    | .loop wanted condition body => runLoop fuel tested wanted condition body 0
    | .forEach line name words body =>
      at_ line
      let items ← expandFields (substitute fuel) words
      if items.isEmpty then setStatus 0 else runForEach fuel tested name body items
    | .choose line word choices =>
      at_ line
      let text ← expandText (substitute fuel) .front word
      runChoice fuel mode text choices
    | .subshell line c redirects =>
      at_ line
      let body : Run Unit := do
        if !(← applyRedirects (substitute fuel) redirects) then throw .failed
        execute fuel { mode with last := true } c
      let inPlace := mode.last && (← trapless)
      match ← apart body (runExitTrap fuel) with
      | some n => if inPlace then throw (.killed n false) else mourn (some n)
      | none => pure ()
      checked
    | .background line c redirects =>
      at_ line
      inBackground fuel fun input => do
        if let some i := input then redirect 0 i
        if ← applyRedirects (substitute fuel) redirects then execute fuel { last := true } c
        else throw .failed
      setStatus 0
    | .redirected line c redirects =>
      at_ line
      restoring do
        if ← applyRedirects (substitute fuel) redirects then execute fuel { tested } c
    | .define _ name body =>
      modify fun s => { s with functions := (name, body) :: s.functions.filter (·.1 ≠ name) }
      setStatus 0

def inBackground : Nat → (Option Nat → Run Unit) → Run Unit
  | 0, _ => throw overflow
  | fuel + 1, body => do
    let input ← openStream { medium := .null, readable := true }
    let process := (← get).nextProcess
    modify fun s => { s with nextProcess := process + 1 }
    let _ ← apart (body (some input)) (runExitTrap fuel)
    modify fun s => { s with
      ended := (process, s.status % 256) :: s.ended
      lastProcess := some process }

def runStages : Nat → Mode → Option Nat → List Command → Run Unit
  | 0, _, _, _ => throw overflow
  | _ + 1, _, _, [] => return ()
  | fuel + 1, mode, input, c :: rest => do
    let output ← if rest.isEmpty then pure none
      else some <$> openStream { medium := .queue .empty, readable := true, writable := true }
    let body : Run Unit := do
      if let some i := input then redirect 0 i
      if let some i := output then redirect 1 i
      execute fuel { mode with last := true } c
    mourn (← apart body (runExitTrap fuel))
    runStages fuel mode output rest

/-- Repeats the body while the condition ends as wanted; `last` is the status of the last turn. -/
def runLoop : Nat → Bool → Bool → Command → Command → Nat → Run Unit
  | 0, _, _, _, _, _ => throw overflow
  | fuel + 1, tested, wanted, condition, body, last => do
    let decision : Run Bool := do
      execute fuel { tested := true } condition
      return decide ((← get).status = 0) = wanted
    match ← turn decision with
    | .left | .done false => setStatus last
    | .next => runLoop fuel tested wanted condition body last
    | .done true =>
      match ← turn (execute fuel { tested } body) with
      | .left => return ()
      | _ => runLoop fuel tested wanted condition body (← get).status

def runForEach : Nat → Bool → String → Command → List String → Run Unit
  | 0, _, _, _, _ => throw overflow
  | _ + 1, _, _, _, [] => return ()
  | fuel + 1, tested, name, body, item :: items => do
    assign name item
    match ← turn (execute fuel { tested } body) with
    | .left => return ()
    | _ => runForEach fuel tested name body items

def runChoice : Nat → Mode → String → List (List Word × Command) → Run Unit
  | 0, _, _, _ => throw overflow
  | _ + 1, _, _, [] => setStatus 0
  | fuel + 1, mode, text, (patterns, c) :: choices => do
    let matching ← patterns.anyM fun p => do
      return globMatches (← expandPattern (substitute fuel) p) text.toList
    if !matching then runChoice fuel mode text choices
    else match c with
      | .skip => setStatus 0
      | c => execute fuel mode c

end

end Mender.Machine.Shell
