import Mender.Command.Standard
import Mender.Machine.Shell.Execute

/-!
The machine that the command line runs tests on: a shell and the small programs, all within the
files at hand. The rest of the library takes its commands from `Host.spawn` and knows nothing of
what is below `Mender.Machine`.
-/

namespace Mender.Machine.Shell

open Files Run

def budget : Nat := 1000000

def environment : List (String × Variable) :=
  [("HOME", "/root"), ("PATH", standardPath)].map fun (name, value) =>
    (name, { value := some value, exported := true })

def State.fresh (files : Disk) (name : String) : State :=
  let blank : State := {
    files
    streams := #[{ medium := .null, readable := true },
      { medium := .queue .empty, writable := true }, { medium := .queue .empty, writable := true }]
    descriptors := [(0, 0), (1, 1), (2, 2)]
    name
    caller := none
    arguments := []
    bindings := environment
    scopes := []
    savedOptions := []
    functions := []
    aliases := []
    documents := #[]
    options := []
    traps := []
    trapped := none
    split := false
    caught := []
    process := 1000
    nextProcess := 1000
    lastProcess := none
    ended := []
    status := 0
    line := 0
    reached := 1
    loops := 0
    calls := 0
    substituted := 0
    optionIndex := 1
    optionOffset := none
    tracked := []
    mask := 0o022 }
  { blank with bindings := startVariables files environment }

def State.written (s : State) (stream : Nat) : ByteArray :=
  ((s.streams[stream]?).map (·.content s.files)).getD .empty

def State.finished (killed : Bool) (s : State) : Finished :=
  ⟨if killed then -1 else s.status % 256, s.written 1, s.written 2⟩

def runAlone (name : String) (arguments : List String) (program : Program) : Run Bool := do
  match program with
  | .shell => return (← runShell budget name arguments).isSome
  | .tool t =>
    useTool t name arguments
    return false

def startable (files : Disk) (name : String) (arguments : List String) :
    Except Fault Program := do
  if name = "" then throw .notFound
  let (_, program) ← findProgram files standardPath name
  if fitsArguments (name :: arguments) then return program else throw .argumentsTooLong

def spawn (workdir program : String) (arguments : List String) (files : Disk) :
    Except Fault Finished × Disk :=
  if (program :: arguments).any (·.contains '\x00') then (.error .zeroByteArgument, files)
  else match files.directory workdir with
    | .error e => (.error e, files)
    | .ok p =>
      let inside := { files with here := p }
      let name := Text.encode program
      let arguments := arguments.map Text.encode
      match startable inside name arguments with
      | .error e => (.error e, files)
      | .ok program =>
        let (result, s) := (runAlone name arguments program).run (.fresh inside name)
        let killed : Bool := match result with
          | .ok killed => killed
          | .error (.killed ..) => true
          | .error _ => false
        (.ok (s.finished killed), { s.files with here := files.here })

end Mender.Machine.Shell

namespace Mender.Machine

def host (grammar : Syntax.Grammar) : Host := .standard grammar Shell.spawn

end Mender.Machine
