import Mender.Host
import Mender.Search.Harness
import Mender.Shell.Words
import Mender.Text.Replace
import Mender.Text.Utf8

namespace Mender.Suite

open Files Search

structure CommandResult where
  command : String
  exitCode : Int
  stdout : String
  stderr : String
  deriving Repr, Inhabited

def CommandResult.passed (r : CommandResult) : Bool := r.exitCode = 0

def runWords (host : Host) (workdir : String) (words : List String) (files : Disk) :
    Except Failure CommandResult × Disk :=
  match words with
  | [] => (.error .emptyCommand, files)
  | program :: arguments =>
    match host.spawn workdir program arguments files with
    | (.error e, files) => (.error (.within (.executing program) (.io e)), files)
    | (.ok f, files) =>
      (.ok ⟨Shell.joinWords words, f.exitCode, Text.lossy f.stdout, Text.lossy f.stderr⟩, files)

structure CommandHarness where
  workdir : String
  program : String
  /-- What the program file held when the harness was made. -/
  original : String
  command : List String
  tests : List String
  deriving DecidableEq, Repr, Inhabited

namespace CommandHarness

/-- Stands for the name of the test in every word of the command. -/
def placeholder : String := "\x7btest\x7d"

def create (host : Host) (files : Disk) (workdir program command : String) (tests : List String) :
    Except HarnessFault CommandHarness :=
  let path := join workdir program
  match files.readText path with
  | .error e => .error (.unreadable path e)
  | .ok original =>
    match host.words command with
    | none => .error (.unclosedQuote command)
    | some [] => .error .emptyCommand
    | some words => .ok ⟨workdir, path, original, words, tests⟩

def words (h : CommandHarness) (test : String) : List String :=
  h.command.map (Text.replace placeholder test)

def load (h : CommandHarness) (source : String) (files : Disk) : Reply Disk Unit :=
  match files.writeText h.program source with
  | .ok files => ⟨.ok (), [], files⟩
  | .error e => ⟨.error (.within (.writing h.program) (.io e)), [], files⟩

def run (host : Host) (h : CommandHarness) (test : String) (files : Disk) :
    Reply Disk Bool :=
  match runWords host h.workdir (h.words test) files with
  | (.error e, files) => ⟨.error e, [], files⟩
  | (.ok r, files) =>
    if r.passed then ⟨.ok true, [], files⟩
    else ⟨.ok false, [.testFailed test r.exitCode r.stdout r.stderr], files⟩

def harness (host : Host) (h : CommandHarness) : Harness Disk :=
  ⟨h.tests, h.load, h.run host⟩

def release (h : CommandHarness) (files : Disk) : Disk × List Note :=
  match files.writeText h.program h.original with
  | .ok files => (files, [])
  | .error e => (files, [.restoreFailed (.within (.restoring h.program) (.io e))])

end CommandHarness

end Mender.Suite
