import Mender.Config
import Mender.Command.Console
import Mender.Hotspot.Detect
import Mender.Report.Inventory
import Mender.Report.Repair
import Mender.Search.Run

namespace Mender.Command

open Files Hotspot Report Suite

def workdirOf (files : Disk) : String := "/" ++ "/".intercalate files.here

def errorLabel (color : Bool) : String := (Style.strongColor .red).paintText color "error:"

def header (color : Bool) (source : String) (t : Template) : String :=
  let shown (s : String) : String := (Style.ofColor .cyan).paintText color s
  let title := (Style.strongColor .cyan).paintText color "AUTOMATED REPAIR"
  s!"\n{title}\n{rule}\n" ++
  s!"  Program:   {shown source}\n" ++
  s!"  Hotspots:  {shown (toString t.hotspots.length)}\n" ++
  s!"  Variants:  {shown (toString t.spaceSize)}\n{rule}\n\n"

def exitOf : Search.Outcome → Exit
  | .noFailures | .accepted _ => .success
  | .exhausted => .noFix

def showEvent (color json : Bool) (total : Nat) : Search.Event → List Emission
  | .noted n => [.noted n]
  | .judged index verdict =>
    if json then [] else [.out (progress color index total verdict ++ "\n")]
  | _ => []

def search (host : Host) (color json : Bool) (t : Template) (h : CommandHarness)
    (lookahead : Nat) : Action Search.Report := do
  let (result, session) :=
    (Search.run t h.original (h.harness host) ⟨lookahead⟩).run ⟨← Action.files, #[]⟩
  Action.setFiles session.state
  (session.events.toList.flatMap (showEvent color json t.spaceSize)).forM Action.emit
  match result with
  | .ok report => return report
  | .error e => throw e

def searchProgram (host : Host) (color : Bool) (arguments : RepairArguments) (source : String)
    (h : CommandHarness) (lookahead : Nat) : Action (Option Search.Report) := do
  match Syntax.parse host.grammar h.original with
  | .error fault =>
    Action.err s!"{errorLabel color} {source}: {fault.message}\n"
    return none
  | .ok tree =>
    let t := detect tree
    Action.note (.detected t.hotspots.length t.roots.length)
    if !arguments.json then Action.out (header color source t)
    return some (← search host color arguments.json t h lookahead)

def showReport (color json : Bool) (report : Search.Report) (original : String) : String :=
  if json then Report.json report original ++ "\n"
  else
    outcome color report original ++
      if report.outcome = .noFailures then "" else summary color report

def repair (host : Host) (color : Bool) (arguments : RepairArguments) : Action Exit := do
  let workdir := workdirOf (← Action.files)
  let config ← Action.told (Config.load host (← Action.files) arguments.config)
  let config := config.override arguments.overrides
  match config.validate host, config.source, config.command with
  | .error e, _, _ =>
    Action.err s!"{errorLabel color} {e.message}\n"
    return .invalidInput
  | .ok (), some source, some command =>
    let tests ← Action.told (config.resolveTests host (← Action.files) workdir)
    match CommandHarness.create host (← Action.files) workdir source command tests with
    | .error fault => throw (.harness fault)
    | .ok h =>
      let searched := searchProgram host color arguments source h config.lookahead
      match ← Action.releasing h searched with
      | none => return .invalidInput
      | some report =>
        Action.out (showReport color arguments.json report h.original)
        return exitOf report.outcome
  | .ok (), _, _ => return .invalidInput

def hotspots (host : Host) (color : Bool) (file : String) (json : Bool) : Action Exit := do
  match (← Action.files).readText file with
  | .error e => throw (.within (.reading file) (.io e))
  | .ok source =>
    match Syntax.parse host.grammar source with
    | .error fault =>
      Action.err s!"{errorLabel color} {file}: {fault.message}\n"
      return .invalidInput
    | .ok tree =>
      let t := detect tree
      Action.note (.detected t.hotspots.length t.roots.length)
      Action.out (if json then hotspotsJson t source ++ "\n" else Report.hotspots color t source)
      return .success

def execute (host : Host) (color : Bool) : Request → Action Exit
  | .repair arguments => repair host color arguments
  | .hotspots file json => hotspots host color file json

end Mender.Command
