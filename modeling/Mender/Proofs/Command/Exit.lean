import Mathlib
import Mender.Command.Program
import Mender.Command.Standard
import Mender.Proofs.Command.Ending
import Mender.Proofs.Files.Disk

namespace Mender.Command

open Files Suite

section Run

variable {host : Host} {a : RepairArguments} {files : Disk} {arguments : List String}
  {verbose : Bool}

theorem exit_of_result (hread : host.arguments arguments = .ok ⟨verbose, some (.repair a)⟩)
    (color : Bool) :
    (run host color arguments files).exit =
      match ((repair host color a).run.run ⟨files, #[]⟩).1 with
      | .ok exit => exit.code
      | .error _ => Exit.error.code := by
  rw [run, hread]
  dsimp only [execute]
  generalize (repair host color a).run.run ⟨files, #[]⟩ = found
  obtain ⟨result, console⟩ := found
  cases result with
  | ok exit => rfl
  | error e => rfl

theorem exit_of_ends (hread : host.arguments arguments = .ok ⟨verbose, some (.repair a)⟩)
    (color : Bool) {ending : Ending} (hends : Ends host a files ending) :
    (run host color arguments files).exit = ending.exit.code := by
  obtain ⟨ending', _, hends', hresult, -⟩ := repair_leads host color a ⟨files, #[]⟩
  obtain rfl := hends'.unique hends
  rw [exit_of_result hread, hresult]
  cases ending' <;> rfl

end Run

def idleHost : Host := .standard (fun _ => none) fun _ _ _ files => (.error .notFound, files)

def noFiles : Disk := ⟨[], []⟩

def unclosedTable : String := "[program\n"

def unclosedFiles : Disk := ⟨[(["x"], .file unclosedTable.toUTF8)], []⟩

theorem locate_x {files : Disk} (hfiles : files.here = []) : files.locate "x" = .ok ["x"] :=
  Disk.locate_name (by cbv) (by decide +kernel) ⟨by decide, by cbv, by decide +kernel⟩
    (Or.inr hfiles)

theorem load_noFiles : (Config.load idleHost noFiles "x").1 = .ok {} :=
  load_of_missing (locate_x rfl) rfl

theorem load_unclosedFiles :
    (Config.load idleHost unclosedFiles "x").1 = .error (.within (.decoding "x") .document) := by
  have hlookup : unclosedFiles.lookup "x" = .ok (["x"], .file unclosedTable.toUTF8) :=
    Disk.lookup_eq (locate_x rfl) (by decide +kernel) rfl
  have hparse : Config.parse idleHost unclosedTable = .error .document := by
    have hnone : idleHost.document unclosedTable = none := by decide +kernel
    rw [Config.parse, hnone]
    rfl
  rw [Config.load, Disk.exists?, hlookup,
    Disk.readText_of_file (locate_x rfl) (by decide +kernel) rfl]
  dsimp only
  rw [if_pos rfl, hparse]
  rfl

theorem read_x : idleHost.arguments ["repair", "-c", "x"] =
    .ok ⟨false, some (.repair ⟨"x", {}, false⟩)⟩ := by
  decide +kernel

end Mender.Command
