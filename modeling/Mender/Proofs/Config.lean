import Mathlib.Tactic.SplitIfs
import Mender.Command.Standard
import Mender.Config
import Mender.Proofs.Suite.Discovery

namespace Mender.Config

open Files Suite Syntax

structure Complete (host : Host) (c : Config) : Prop where
  source : ∃ source, c.source = some source
  command : ∃ command, c.command = some command
  suite : c.names ≠ [] ∨ ∃ file, c.testFile = some file
  pattern : ∃ p, host.pattern c.pattern = some p

variable {host : Host} {c : Config}

theorem validate_eq_ok_iff : c.validate host = .ok () ↔ c.Complete host := by
  rw [validate]
  constructor
  · intro h
    split_ifs at h with hsource hcommand hsuite
    rw [Option.isNone_iff_eq_none, ← ne_eq, Option.ne_none_iff_exists'] at hsource hcommand
    refine ⟨hsource, hcommand, ?_, ?_⟩
    · rw [not_and_or, List.isEmpty_iff, Option.isNone_iff_eq_none] at hsuite
      rwa [← ne_eq c.testFile, Option.ne_none_iff_exists'] at hsuite
    · split at h
      · next p hp => exact ⟨p, hp⟩
      · cases h
  · rintro ⟨⟨source, hsource⟩, ⟨command, hcommand⟩, hsuite, p, hp⟩
    have hnone : ¬(c.names.isEmpty ∧ c.testFile.isNone) := by
      rintro ⟨hnames, hfile⟩
      rw [List.isEmpty_iff] at hnames
      rw [Option.isNone_iff_eq_none] at hfile
      rcases hsuite with hsuite | ⟨file, hsuite⟩
      · exact hsuite hnames
      · rw [hfile] at hsuite
        cases hsuite
    rw [hsource, hcommand, if_neg hnone, hp]
    rfl

theorem exists_pattern_default (grammar : Grammar)
    (spawn : String → String → List String → Disk → Except Files.Fault Finished × Disk) :
    ∃ p, (Host.standard grammar spawn).pattern ({} : Config).pattern = some p := by
  have hparse : (Pattern.parse? "^test_").isSome = true := by decide +kernel
  obtain ⟨p, hp⟩ := Option.isSome_iff_exists.mp hparse
  exact ⟨p.occursIn, Option.map_eq_some_iff.mpr ⟨p, hp, rfl⟩⟩

theorem exists_or {α : Type} (given : Option α) {kept : Option α} (h : ∃ a, kept = some a) :
    ∃ a, given.or kept = some a := by
  obtain ⟨a, rfl⟩ := h
  cases given with
  | none => exact ⟨a, rfl⟩
  | some b => exact ⟨b, rfl⟩

theorem Complete.override (h : c.Complete host) (o : Overrides) :
    (c.override o).Complete host := by
  refine ⟨exists_or o.source h.source, exists_or o.command h.command, ?_, h.pattern⟩
  rcases h.suite with hnames | hfile
  · left
    rw [Config.override]
    dsimp only
    split_ifs with htests
    · exact hnames
    · rwa [List.isEmpty_iff] at htests
  · exact .inr (exists_or o.testFile hfile)

structure Searches (c : Config) (host : Host) (files : Disk) (workdir file : String)
    (tree : Node) (p : String → Bool) : Prop where
  names : c.names = []
  testFile : c.testFile = some file
  tree : ∃ source, files.readText (join workdir file) = .ok source ∧
    Syntax.parse host.grammar source = .ok tree
  pattern : host.pattern c.pattern = some p

/-- What the tests of a run come to: the names given, or those that the test file defines, if it
can be read, parses and defines any. -/
inductive Resolves (c : Config) (host : Host) (files : Disk) (workdir : String) :
    Except Failure (List String) → Prop
  | given (hnames : c.names ≠ []) : Resolves c host files workdir (.ok c.names)
  | unreadable {file : String} {fault : Files.Fault} (hnames : c.names = [])
      (hfile : c.testFile = some file)
      (hread : files.readText (join workdir file) = .error fault) :
      Resolves c host files workdir (.error (.within (.reading (join workdir file)) (.io fault)))
  | unparsed {file source : String} {fault : Syntax.Fault} (hnames : c.names = [])
      (hfile : c.testFile = some file)
      (hread : files.readText (join workdir file) = .ok source)
      (hparse : Syntax.parse host.grammar source = .error fault) :
      Resolves c host files workdir
        (.error (.within (.parsing (join workdir file)) (.parse fault)))
  | unmatched {file : String} {tree : Node} {p : String → Bool}
      (hs : c.Searches host files workdir file tree p) (hnone : ∀ name, ¬HasTest tree p name) :
      Resolves c host files workdir (.error (.config (.noMatch c.pattern file)))
  | discovered {file : String} {tree : Node} {p : String → Bool} {name : String}
      (hs : c.Searches host files workdir file tree p) (hname : HasTest tree p name) :
      Resolves c host files workdir (.ok (testNames tree p))

variable {files : Disk} {workdir : String} {r : Except Failure (List String)}

theorem Complete.resolves (h : c.Complete host) :
    c.Resolves host files workdir (c.resolveTests host files workdir).1 := by
  rw [resolveTests]
  by_cases hnames : c.names = []
  · obtain ⟨file, hfile⟩ := h.suite.resolve_left fun hne => hne hnames
    obtain ⟨p, hp⟩ := h.pattern
    rw [if_pos (List.isEmpty_iff.mpr hnames), hfile, hp]
    dsimp only
    rw [discover]
    cases hread : files.readText (join workdir file) with
    | error fault => exact .unreadable hnames hfile hread
    | ok source =>
      dsimp only
      cases hparse : Syntax.parse host.grammar source with
      | error fault => exact .unparsed hnames hfile hread hparse
      | ok tree =>
        have hs : c.Searches host files workdir file tree p :=
          ⟨hnames, hfile, ⟨source, hread, hparse⟩, hp⟩
        dsimp only
        cases hfound : testNames tree p with
        | nil =>
          apply Resolves.unmatched hs
          intro name hname
          rw [← mem_testNames, hfound] at hname
          cases hname
        | cons name names =>
          have hname : HasTest tree p name := by
            rw [← mem_testNames, hfound]
            exact List.mem_cons_self
          have hresolved := Resolves.discovered hs hname
          rwa [hfound] at hresolved
  · rw [if_neg (mt List.isEmpty_iff.mp hnames)]
    exact .given hnames

theorem Complete.resolveTests_eq (h : c.Complete host) (hr : c.Resolves host files workdir r) :
    (c.resolveTests host files workdir).1 = r := by
  obtain ⟨p, hp⟩ := h.pattern
  cases hr with
  | given hnames => rw [resolveTests, if_neg (mt List.isEmpty_iff.mp hnames)]
  | unreadable hnames hfile hread =>
    simp only [resolveTests, hnames, hfile, hp, discover, hread, List.isEmpty_nil, if_true]
  | unparsed hnames hfile hread hparse =>
    simp only [resolveTests, hnames, hfile, hp, discover, hread, hparse, List.isEmpty_nil, if_true]
  | unmatched hs hnone =>
    obtain ⟨hnames, hfile, ⟨source, hread, hparse⟩, hp⟩ := hs
    have hfound := List.eq_nil_iff_forall_not_mem.mpr fun name => mt mem_testNames.mp (hnone name)
    simp only [resolveTests, hnames, hfile, hp, discover, hread, hparse, hfound, List.isEmpty_nil,
      if_true]
  | discovered hs hname =>
    obtain ⟨hnames, hfile, ⟨source, hread, hparse⟩, hp⟩ := hs
    have hfound := List.ne_nil_of_mem (mem_testNames.mpr hname)
    simp only [resolveTests, hnames, hfile, hp, discover, hread, hparse, List.isEmpty_nil, if_true]

theorem Complete.resolveTests_eq_iff (h : c.Complete host) :
    (c.resolveTests host files workdir).1 = r ↔ c.Resolves host files workdir r :=
  ⟨fun hr => hr ▸ h.resolves, h.resolveTests_eq⟩

theorem Resolves.ne_nil {tests : List String} (hr : c.Resolves host files workdir (.ok tests)) :
    tests ≠ [] := by
  cases hr with
  | given hnames => exact hnames
  | discovered hs hname => exact List.ne_nil_of_mem (mem_testNames.mpr hname)

end Mender.Config
