import Mathlib
import Mender.Command.Standard
import Mender.Proofs.Command.Ending
import Mender.Proofs.Suite.Command

namespace Mender.Command

open Files Hotspot Suite Syntax

variable {host : Host} {a : RepairArguments} {files : Disk} {config : Config} {h : CommandHarness}

theorem Equipped.tests_ne_nil (hh : Equipped host a files config h) : h.tests ≠ [] := by
  obtain ⟨source, command, tests, -, -, htests, hcreate⟩ := hh.created
  obtain ⟨-, -, rfl, -⟩ := CommandHarness.of_create hcreate
  have hcomplete := Config.validate_eq_ok_iff.mp hh.valid
  exact (hcomplete.resolveTests_eq_iff.mp htests).ne_nil

theorem exists_fault_of_invalidInput (hs : Settled host a files config) {color : Bool}
    (hr : ((repair host color a).run.run ⟨files, #[]⟩).1 = .ok .invalidInput) :
    ∃ h fault, Equipped host a files config h ∧
      Syntax.parse host.grammar h.original = .error fault := by
  obtain ⟨ending, -, hends, hresult, -⟩ := repair_leads host color a ⟨files, #[]⟩
  rw [hr] at hresult
  cases hends with
  | document | tests | harness | original => cases hresult
  | settings hload hvalid =>
    obtain ⟨document, hload', rfl⟩ := hs.given
    rw [hload'] at hload
    cases hload
    rw [hs.valid] at hvalid
    cases hvalid
  | program hh hparse =>
    obtain rfl := hs.unique hh.toSettled
    exact ⟨_, _, hh, hparse⟩
  | searched =>
    rename_i report _ _ _
    cases hout : report.outcome <;> rw [Ending.result, hout] at hresult <;> cases hresult

theorem searched_of_no_tests (t : Template) (lookahead : Nat) (hnone : h.tests = []) :
    (searched host t h lookahead files).1 =
      (h.load h.original files).result.map fun _ => ⟨.noFailures, [], {}⟩ := by
  have hload : (Search.Act.load (h.harness host) h.original ⟨files, #[]⟩).1 =
      (h.load h.original files).result := rfl
  have htests : (h.harness host).tests = [] := hnone
  change (Search.run t h.original (h.harness host) ⟨lookahead⟩ ⟨files, #[]⟩).1 = _
  rw [Search.run, Search.runAssignments, Search.failingTests, bind_assoc, Search.bind_apply, hload]
  cases (h.load h.original files).result with
  | error e => rfl
  | ok _ =>
    rw [htests]
    rfl

/-- Settings that pass their checks pass them whatever flags are given. They name a program and a
command, and what their tests come to is told by the names given or else by the test file alone; it
is never nothing. So in a run with such settings only a program that does not parse is invalid input,
and no search starts without tests, for which it would have nothing to repair. -/
theorem repair_validated (host : Host) (hvalid : config.validate host = .ok ()) (files : Disk) :
    (∀ o : Overrides, (config.override o).validate host = .ok ()) ∧
    (∃ source command, config.source = some source ∧ config.command = some command) ∧
    (∀ workdir r, (config.resolveTests host files workdir).1 = r ↔
      config.Resolves host files workdir r) ∧
    (∀ workdir tests, (config.resolveTests host files workdir).1 = .ok tests → tests ≠ []) ∧
    (∀ a color, Settled host a files config →
      ((repair host color a).run.run ⟨files, #[]⟩).1 = .ok .invalidInput →
      ∃ h fault, Equipped host a files config h ∧
        Syntax.parse host.grammar h.original = .error fault) ∧
    (∀ a h, Equipped host a files config h → h.tests ≠ []) ∧
    (∀ t lookahead (h : CommandHarness), h.tests = [] →
      (searched host t h lookahead files).1 =
        (h.load h.original files).result.map fun _ => ⟨.noFailures, [], {}⟩) := by
  have hcomplete := Config.validate_eq_ok_iff.mp hvalid
  refine ⟨fun o => ?_, ?_, fun _ _ => hcomplete.resolveTests_eq_iff, fun workdir tests htests => ?_,
    fun _ _ hs hr => exists_fault_of_invalidInput hs hr, fun _ _ hh => hh.tests_ne_nil,
    fun t lookahead _ hnone => searched_of_no_tests t lookahead hnone⟩
  · exact Config.validate_eq_ok_iff.mpr (hcomplete.override o)
  · obtain ⟨source, hsource⟩ := hcomplete.source
    obtain ⟨command, hcommand⟩ := hcomplete.command
    exact ⟨source, command, hsource, hcommand⟩
  · exact (hcomplete.resolveTests_eq_iff.mp htests).ne_nil

def suiteText : String := "def test_a; end"

def suiteRows : Parsed :=
  ⟨cleanRow "program" 0 15,
    .cons (cleanRow "method" 0 15)
      (.cons { cleanRow "identifier" 4 10 with field := some "name" } .nil .nil) .nil⟩

def suiteHost : Host :=
  .standard (fun source => if source = suiteText then some suiteRows else none)
    fun _ _ _ files => (.error .notFound, files)

def suiteFiles : Disk := ⟨[(["p"], .file "xs".toUTF8), (["t"], .file suiteText.toUTF8)], []⟩

def suiteArguments : RepairArguments := ⟨"x", ⟨some "p", some "c", some "t", [], none⟩, false⟩

def suiteConfig : Config := ⟨some "p", some "c", [], some "t", "^test_", 1⟩

def suiteHarness : CommandHarness := ⟨"/", "/p", "xs", ["c"], ["test_a"]⟩

theorem validate_suiteConfig : suiteConfig.validate suiteHost = .ok () :=
  Config.validate_eq_ok_iff.mpr ⟨⟨"p", rfl⟩, ⟨"c", rfl⟩, .inr ⟨"t", rfl⟩,
    Config.exists_pattern_default _ _⟩

theorem settled_suite : Settled suiteHost suiteArguments suiteFiles suiteConfig := by
  have hload : (Config.load suiteHost suiteFiles "x").1 = .ok {} :=
    load_of_missing (Disk.locate_name (by cbv) (by decide +kernel)
      ⟨by decide, by cbv, by decide +kernel⟩ (Or.inr rfl)) rfl
  exact ⟨⟨{}, hload, rfl⟩, validate_suiteConfig⟩

theorem exists_suite : ∃ p, suiteConfig.Searches suiteHost suiteFiles "/" "t"
    (suiteRows.lower suiteText.toList) p ∧
      testNames (suiteRows.lower suiteText.toList) p = ["test_a"] := by
  have hjoin : join "/" "t" = "/t" := by decide +kernel
  have hread : suiteFiles.readText "/t" = .ok suiteText :=
    Disk.readText_of_file (Disk.locate_name (by cbv) (by decide +kernel)
      ⟨by decide, by cbv, by decide +kernel⟩ (Or.inr rfl)) (by decide +kernel) rfl
  have hnames : ((suiteHost.pattern "^test_").any fun p =>
      testNames (suiteRows.lower suiteText.toList) p = ["test_a"]) = true := by
    decide +kernel
  rw [Option.any_eq_true] at hnames
  obtain ⟨p, hp, hnames⟩ := hnames
  exact ⟨p, ⟨rfl, rfl, ⟨suiteText, hjoin ▸ hread, rfl⟩, hp⟩, of_decide_eq_true hnames⟩

theorem resolveTests_suite :
    (suiteConfig.resolveTests suiteHost suiteFiles "/").1 = .ok ["test_a"] := by
  obtain ⟨p, hs, hnames⟩ := exists_suite
  have htest : HasTest (suiteRows.lower suiteText.toList) p "test_a" := by
    rw [← mem_testNames, hnames]
    exact List.mem_cons_self
  rw [(Config.validate_eq_ok_iff.mp validate_suiteConfig).resolveTests_eq_iff, ← hnames]
  exact .discovered hs htest

theorem equipped_suite :
    Equipped suiteHost suiteArguments suiteFiles suiteConfig suiteHarness := by
  have hroot : workdirOf suiteFiles = "/" := by decide +kernel
  have hread : suiteFiles.readText "/p" = .ok "xs" :=
    Disk.readText_of_file (Disk.locate_name (by cbv) (by decide +kernel)
      ⟨by decide, by cbv, by decide +kernel⟩ (Or.inr rfl)) (by decide +kernel) rfl
  have hcreate : CommandHarness.create suiteHost suiteFiles "/" "p" "c" ["test_a"] =
      .ok suiteHarness := by
    have hjoin : join "/" "p" = "/p" := by decide +kernel
    have hsplit : suiteHost.words "c" = some ["c"] := by decide +kernel
    rw [CommandHarness.create, hjoin, hread, hsplit]
    rfl
  exact ⟨settled_suite, "p", "c", ["test_a"], rfl, rfl, hroot ▸ resolveTests_suite,
    hroot ▸ hcreate⟩

theorem repair_suite : ((repair suiteHost false suiteArguments).run.run ⟨suiteFiles, #[]⟩).1 =
    .ok .invalidInput := by
  have hends : Ends suiteHost suiteArguments suiteFiles (.program ⟨0, 0, .noTree⟩) :=
    .program equipped_suite rfl
  obtain ⟨ending, -, hends', hresult, -⟩ :=
    repair_leads suiteHost false suiteArguments ⟨suiteFiles, #[]⟩
  rw [hresult, hends'.unique hends]
  rfl

theorem repair_validated_discovered :
    let bare := { suiteHarness with tests := [] }
    suiteConfig.validate suiteHost = .ok () ∧
      (suiteConfig.override ⟨none, none, none, [], some 4⟩).validate suiteHost = .ok () ∧
      ((suiteConfig.resolveTests suiteHost suiteFiles "/").1 = .ok ["test_a"] ∧
        suiteConfig.Resolves suiteHost suiteFiles "/" (.ok ["test_a"]) ∧ ["test_a"] ≠ []) ∧
      (Settled suiteHost suiteArguments suiteFiles suiteConfig ∧
        ((repair suiteHost false suiteArguments).run.run ⟨suiteFiles, #[]⟩).1 =
          .ok .invalidInput ∧
        ∃ h fault, Equipped suiteHost suiteArguments suiteFiles suiteConfig h ∧
          Syntax.parse suiteHost.grammar h.original = .error fault) ∧
      (Equipped suiteHost suiteArguments suiteFiles suiteConfig suiteHarness ∧
        suiteHarness.tests ≠ []) ∧
      (bare.tests = [] ∧
        (searched suiteHost ⟨⟨"program", none, .nil⟩, [], []⟩ bare 1 suiteFiles).1 =
          (bare.load bare.original suiteFiles).result.map fun _ => ⟨.noFailures, [], {}⟩) := by
  intro bare
  obtain ⟨hflags, -, hresolves, hnonempty, hinvalid, htests, hnone⟩ :=
    repair_validated suiteHost validate_suiteConfig suiteFiles
  have hresolved := (hresolves _ _).mp resolveTests_suite
  have hfault := hinvalid _ _ settled_suite repair_suite
  exact ⟨validate_suiteConfig, hflags _,
    ⟨resolveTests_suite, hresolved, hnonempty _ _ resolveTests_suite⟩,
    ⟨settled_suite, repair_suite, hfault⟩, ⟨equipped_suite, htests _ _ equipped_suite⟩,
    rfl, hnone _ _ _ rfl⟩

end Mender.Command
