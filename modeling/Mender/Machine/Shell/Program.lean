import Mender.Machine.Shell.Builtin.Settings
import Mender.Machine.Tool.Cat
import Mender.Machine.Tool.Condition
import Mender.Machine.Tool.Directory
import Mender.Machine.Tool.Echo
import Mender.Machine.Tool.Grep
import Mender.Machine.Tool.Printf
import Mender.Machine.Tool.Remove
import Mender.Machine.Tool.Sequence

namespace Mender.Machine.Shell

open Files Run

inductive Program where
  | tool (run : Tool)
  | shell
  deriving Inhabited

def programs : List (String × Program) :=
  [("sh", .shell), ("dash", .shell), ("grep", .tool Tool.grep), ("printf", .tool Tool.printf),
    ("cat", .tool Tool.cat), ("seq", .tool Tool.sequence), ("true", .tool Tool.succeed),
    ("false", .tool Tool.failing), ("rm", .tool Tool.remove),
    ("mkdir", .tool Tool.makeDirectory), ("echo", .tool Tool.echo),
    ("test", .tool (Tool.condition false)), ("[", .tool (Tool.condition true))]

def programPlaces : List String := ["/bin", "/usr/bin"]

def standardPath : String :=
  "/usr/local/sbin:/usr/local/bin:/usr/sbin:/usr/bin:/sbin:/bin"

def systemPlaces : List String :=
  ["/", "/usr", "/usr/local", "/usr/local/sbin", "/usr/local/bin", "/usr/sbin", "/usr/bin",
    "/sbin", "/bin"]

def argumentLimit : Nat := 131072

def argumentsLimit : Nat := 2000000

def fitsArguments (arguments : List String) : Bool :=
  arguments.all (·.length < argumentLimit) &&
    (arguments.map (·.length + 9)).foldl (· + ·) 0 < argumentsLimit

/-- The program at a path, or why there is none. Files on the disk are no programs. -/
def programAt (files : Disk) (path : String) : Except Fault Program :=
  let plain := plainPath (placePath files.here) path
  let known := programPlaces.findSome? fun dir =>
    programs.find? fun (name, _) => plain = dir ++ "/" ++ name
  match known with
  | some (_, p) => if path.endsWith "/" then .error .notDirectory else .ok p
  | none =>
    if plain ∈ systemPlaces then .error .permissionDenied
    else match files.lookup (Tool.pathOf path) with
      | .ok _ => .error .permissionDenied
      | .error e => .error e

/-- Why a search goes on, or does not: a fault that tells more than that nothing is there. -/
def tellingFault (a b : Fault) : Fault :=
  match b with
  | .notFound | .notDirectory => a
  | b => b

def searchProgram (files : Disk) : Fault → List String →
    Except Fault (String × Program)
  | fault, [] => .error fault
  | fault, path :: paths =>
    match programAt files path with
    | .ok p => .ok (path, p)
    | .error e => searchProgram files (tellingFault fault e) paths

def findProgram (files : Disk) (path name : String) : Except Fault (String × Program) :=
  if name.contains '/' then (programAt files name).map fun p => (name, p)
  else if name = "" then .error .permissionDenied
  else searchProgram files .notFound (startPaths path name)

def startReason : Fault → String
  | .notFound | .notDirectory => "not found"
  | e => e.reason

def startStatus : Fault → Nat
  | .notFound | .notDirectory | .nameTooLong => 127
  | _ => 126

end Mender.Machine.Shell
