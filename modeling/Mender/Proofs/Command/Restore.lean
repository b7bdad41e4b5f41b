import Mathlib
import Mender.Command.Standard
import Mender.Proofs.Command.Ending
import Mender.Proofs.Search.Conversation
import Mender.Proofs.Suite.Command

/-!
The program file survives every run. A run writes no other file, its commands find what was loaded
last, and whatever they did to the file, the release of the harness puts the original back.
-/

namespace Mender.Command

open Files Hotspot Suite Search

/-- The calls of a search in the order of its trace, and the files that they lead to. A program that
does not parse is not searched. -/
inductive Calls (host : Host) (h : CommandHarness) (lookahead : Nat) (files : Disk) :
    List Exchange → Disk → Prop
  | unparsed {fault : Syntax.Fault}
      (hparse : Syntax.parse host.grammar h.original = .error fault) :
      Calls host h lookahead files [] files
  | parsed {tree : Syntax.Node} {es : List Exchange}
      (hparse : Syntax.parse host.grammar h.original = .ok tree)
      (htrace : spoken (searched host (detect tree) h lookahead files).2.events.toList =
        es.map Exchange.event)
      (hes : (h.harness host).Answers files es
        (searched host (detect tree) h lookahead files).2.state) :
      Calls host h lookahead files es (searched host (detect tree) h lookahead files).2.state

/-- After `before` the program file holds the text that was loaded last, unless a command that was
run since then has changed it. -/
def Holds (host : Host) (h : CommandHarness) (files : Disk) (before : List Exchange) : Prop :=
  ∃ earlier text since u v, before = earlier ++ .load text true :: since ∧ Loadless since ∧
    (h.harness host).Answers files earlier u ∧ (h.harness host).Answers files before v ∧
    (v.readText h.program = .ok text ∨
      (h.harness host).Disturbs (·.readText h.program) (h.load text u).state since)

/-- A load writes the program file only, and a run leaves the files as its command leaves them. -/
def Confined (host : Host) (h : CommandHarness) (u : Disk) : Exchange → Prop
  | .load source _ =>
    ∀ p, p ≠ placeOf h.program → (h.load source u).state.entry? p = u.entry? p
  | .run test _ => ∃ program arguments, h.words test = program :: arguments ∧
    (h.run host test u).state = (host.spawn h.workdir program arguments u).2
  | .verdict .. => True

section Run

variable {host : Host} {a : RepairArguments} {files between : Disk} {config : Config}
  {h : CommandHarness} {lookahead : Nat} {es : List Exchange}

theorem Calls.answers (hc : Calls host h lookahead files es between) :
    (h.harness host).Answers files es between := by
  cases hc with
  | unparsed => exact .nil files
  | parsed _ _ hes => exact hes

theorem startsWith_workdirOf (files : Disk) : (workdirOf files).startsWith "/" = true := by
  rw [String.startsWith_string_iff, workdirOf, String.toList_append]
  exact List.prefix_append _ _

theorem Equipped.startsWith_program (hh : Equipped host a files config h) :
    h.program.startsWith "/" = true := by
  obtain ⟨source, command, tests, -, -, -, hcreate⟩ := hh.created
  rw [(CommandHarness.of_create hcreate).1]
  exact startsWith_join (startsWith_workdirOf files)

theorem Equipped.readText_program (hh : Equipped host a files config h) :
    files.readText h.program = .ok h.original := by
  obtain ⟨source, command, tests, -, -, -, hcreate⟩ := hh.created
  exact (CommandHarness.of_create hcreate).2.1

theorem Equipped.confined (hh : Equipped host a files config h) (u : Disk) (e : Exchange) :
    Confined host h u e := by
  cases e with
  | load source loaded => exact fun p hp => CommandHarness.entry?_load hh.startsWith_program hp
  | run test passed =>
    obtain ⟨source, command, tests, -, -, -, hcreate⟩ := hh.created
    obtain ⟨-, -, -, hcommand⟩ := CommandHarness.of_create hcreate
    obtain ⟨program, arguments, hwords⟩ := CommandHarness.exists_words hcommand test
    exact ⟨program, arguments, hwords, CommandHarness.state_run_of_words hwords⟩
  | verdict => trivial

theorem text_of_mem_variants {tree : Syntax.Node} {v : Variant.Assignment × String}
    (htree : tree.text = "") (hv : v ∈ variants tree) : v.2 = "" := by
  obtain ⟨j, -, rfl⟩ := List.mem_map.mp hv
  exact (congrArg _ (Variant.Assignment.mutate_of_text _ htree 0)).trans htree

theorem exists_calls (hs : Searches host h lookahead files between) :
    ∃ es, Calls host h lookahead files es between ∧ RunsLoaded false es ∧
      ∀ source ok, .load source ok ∈ es → h.original = "" → source = "" := by
  cases hs with
  | unparsed hparse =>
    exact ⟨[], .unparsed hparse, trivial, fun _ _ hmem => absurd hmem List.not_mem_nil⟩
  | @parsed tree hparse =>
    have hholes := Syntax.hasHoles_parse hparse
    obtain ⟨-, hseen⟩ := run_alike hholes h.original (h.harness host) ⟨lookahead⟩ ⟨files, #[]⟩
      ⟨files, #[]⟩ rfl
    obtain ⟨hstate, hevents⟩ := Prod.mk.inj hseen
    obtain ⟨evs, es, hadded, hspoken, hanswers, hall, -⟩ :=
      Converses.searchList (h := h.harness host) h.original (variants tree) ⟨files, #[]⟩
    refine ⟨es, .parsed hparse ?_ (hstate ▸ hanswers), hall.runsLoaded, ?_⟩
    · rw [← spoken_filter_isPull]
      refine (congrArg spoken hevents).trans ?_
      rw [spoken_filter_isPull, hadded, List.nil_append, hspoken]
    · intro source ok hmem hempty
      obtain ⟨n, hloaded, -⟩ := hall.loaded
      have hsource := mem_loaded hmem
      rw [hloaded, List.mem_cons] at hsource
      rcases hsource with rfl | hsource
      · exact hempty
      · obtain ⟨v, hv, rfl⟩ := List.mem_map.mp (List.mem_of_mem_take hsource)
        rw [hempty] at hparse
        exact text_of_mem_variants (Syntax.text_parse_empty hparse) hv

theorem holds_of_calls (hpath : h.program.startsWith "/" = true)
    (hes : (h.harness host).Answers files es between) (hruns : RunsLoaded false es)
    (hempty : ∀ source ok, .load source ok ∈ es → placeOf h.program = device → source = "")
    {before rest : List Exchange} {test : String} {passed : Bool}
    (he : es = before ++ .run test passed :: rest) : Holds host h files before := by
  subst he
  rcases hruns.exists_load with ⟨hfalse, -⟩ | ⟨earlier, text, since, rfl, hsince⟩
  · cases hfalse
  · obtain ⟨v, hbefore, -⟩ := hes.split
    obtain ⟨u, hearlier, hload⟩ := hbefore.split
    refine ⟨earlier, text, since, u, v, rfl, hsince, hearlier, hbefore, ?_⟩
    cases hload with
    | load _ _ hl hrest =>
      have hheld : ((h.harness host).load text u).state.readText h.program = .ok text := by
        apply CommandHarness.readText_load hpath (hl.mp rfl)
        exact hempty text true (by simp)
      have hkeep := hrest.view_or_disturbs (·.readText h.program)
        fun source loaded _ hmem => absurd hmem (hsince source loaded)
      rcases hkeep with hsame | hdisturbed
      · exact Or.inl (hsame.trans hheld)
      · exact Or.inr hdisturbed

end Run

def spoilingHost : Host :=
  .standard
    (fun _ => some ⟨Syntax.cleanRow "program" 0 2,
      .cons (Syntax.cleanRow "identifier" 0 2) .nil .nil⟩)
    fun _ _ _ files =>
      match files.writeText "/p" "spoilt" with
      | .ok files => (.ok ⟨1, .empty, .empty⟩, files)
      | .error e => (.error e, files)

def programFiles : Disk := ⟨[(["p"], .file "xs".toUTF8)], []⟩

def programArguments : RepairArguments := ⟨"x", ⟨some "p", some "c", none, ["t"], none⟩, false⟩

def programHarness : CommandHarness := ⟨"/", "/p", "xs", ["c"], ["t"]⟩

def programConfig : Config := ⟨some "p", some "c", ["t"], none, "^test_", 1⟩

theorem spawn_spoilingHost {workdir program : String} {arguments : List String} {files : Disk}
    {p : Place}
    (hp : Disk.entry? (spoilingHost.spawn workdir program arguments files).2 p = some .directory) :
    files.entry? p = some .directory := by
  dsimp only [spoilingHost, Host.standard] at hp
  split at hp
  · next hw => exact Disk.directory_of_writeText hw hp
  · exact hp

theorem locate_p (files : Disk) : files.locate "/p" = .ok ["p"] :=
  Disk.locate_name (by cbv) (by decide +kernel) ⟨by decide, by cbv, by decide +kernel⟩
    (Or.inl (by decide +kernel))

theorem equipped_program :
    Equipped spoilingHost programArguments programFiles programConfig programHarness := by
  have hroot : workdirOf programFiles = "/" := by decide +kernel
  have hload : (Config.load spoilingHost programFiles "x").1 = .ok {} :=
    load_of_missing (Disk.locate_name (by cbv) (by decide +kernel)
      ⟨by decide, by cbv, by decide +kernel⟩ (Or.inr rfl)) rfl
  have hread : programFiles.readText "/p" = .ok "xs" :=
    Disk.readText_of_file (locate_p _) (by decide +kernel) rfl
  have hvalid : programConfig.validate spoilingHost = .ok () :=
    Config.validate_eq_ok_iff.mpr ⟨⟨"p", rfl⟩, ⟨"c", rfl⟩, .inl (List.cons_ne_nil _ _),
      Config.exists_pattern_default _ _⟩
  have hcreate : CommandHarness.create spoilingHost programFiles "/" "p" "c" ["t"] =
      .ok programHarness := by
    have hjoin : join "/" "p" = "/p" := by decide +kernel
    have hsplit : spoilingHost.words "c" = some ["c"] := by decide +kernel
    rw [CommandHarness.create, hjoin, hread, hsplit]
    rfl
  exact ⟨⟨⟨{}, hload, rfl⟩, hvalid⟩, "p", "c", ["t"], rfl, rfl, rfl, hroot ▸ hcreate⟩

theorem writable_program {es : List Exchange} {between : Disk}
    (hes : (programHarness.harness spoilingHost).Answers programFiles es between) :
    ∃ s, between.writeText "/p" "xs" = .ok s := by
  have hfile : between.entry? ["p"] ≠ some .directory := by
    intro hdir
    have hstart := hes.backward (P := fun s => s.entry? ["p"] = some .directory)
      (fun _ _ => CommandHarness.directory_of_load)
      (fun _ _ => CommandHarness.of_run (P := fun s => s.entry? ["p"] = some .directory)
        fun _ _ => spawn_spoilingHost) hdir
    cases hstart
  have htarget : between.target "/p" = .ok ["p"] :=
    Disk.target_eq_ok_iff.mpr ⟨locate_p between, hfile, by decide +kernel⟩
  exact ⟨_, by rw [Disk.writeText, Disk.write, htarget]; rfl⟩

end Mender.Command
