import Mender.Command.Repair

namespace Mender.Command

open Files Suite

def versionText : String := "autofix 0.1.0\n"

def helpText : String :=
  "Search small mutations of a Ruby program for one that fixes its failing tests\n\n" ++
  "Usage: autofix [OPTIONS] [COMMAND]\n\n" ++
  "Commands:\n" ++
  "  repair    Search for a variant that makes every test pass\n" ++
  "  hotspots  List mutation hotspots in a file and the size of the search space\n" ++
  "  help      Print this message or the help of the given subcommand(s)\n\n" ++
  "Options:\n" ++
  "  -v, --verbose  Enable debug logging\n" ++
  "  -h, --help     Print help\n" ++
  "  -V, --version  Print version\n"

def UsageFault.message : UsageFault → String
  | displayHelp => helpText
  | displayVersion => versionText
  | unknownArgument => "error: unexpected argument found\n"
  | invalidSubcommand => "error: unrecognized subcommand\n"
  | invalidValue => "error: a value is required for an argument but none was supplied\n"
  | valueValidation => "error: invalid value for an argument\n"
  | argumentConflict => "error: an argument cannot be used multiple times\n"
  | missingRequiredArgument => "error: a required argument was not provided\n"
  | tooManyValues => "error: unexpected value for a flag\n"

def UsageFault.isRequest : UsageFault → Bool
  | displayHelp | displayVersion => true
  | _ => false

def Level.label : Level → String
  | .debug => "DEBUG"
  | .info => "INFO "
  | .warn => "WARN "
  | .error => "ERROR"

/-- A note as a line of the log; further lines of its text are indented. -/
def logLine (n : Note) : String :=
  let body : String := .ofList
    (n.text.toList.flatMap fun c => if c = '\n' then "\n    ".toList else [c])
  s!"[{Level.label n.level}] {body}\n"

def isShown (verbose : Bool) (n : Note) : Bool := verbose || n.level ≠ .debug

def Emission.stdout : Emission → String
  | out text => text
  | _ => ""

def Emission.stderr (verbose : Bool) : Emission → String
  | out _ => ""
  | err text => text
  | noted n => if isShown verbose n then logLine n else ""

structure Result where
  exit : Nat
  stdout : String
  stderr : String
  files : Disk

def run (host : Host) (color : Bool) (arguments : List String) (files : Disk) : Result :=
  match host.arguments arguments with
  | .error fault =>
    if fault.isRequest then ⟨0, fault.message, "", files⟩ else ⟨2, "", fault.message, files⟩
  | .ok ⟨_, none⟩ => ⟨0, helpText, "", files⟩
  | .ok ⟨verbose, some request⟩ =>
    let (result, console) := (execute host color request).run.run ⟨files, #[]⟩
    let emissions := console.emissions.toList
    let stdout := "".intercalate (emissions.map Emission.stdout)
    let stderr := "".intercalate (emissions.map (Emission.stderr verbose))
    match result with
    | .ok exit => ⟨exit.code, stdout, stderr, console.files⟩
    | .error e =>
      let label := (Report.Style.ofColor .red).paintText color "Error:"
      ⟨Exit.error.code, stdout, stderr ++ s!"{label} {e.message}\n", console.files⟩

end Mender.Command
