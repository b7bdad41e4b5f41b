import Mender.Proofs.Command.Console
import Mender.Proofs.Config
import Mender.Proofs.Files.Disk
import Mender.Proofs.Search.Lookahead
import Mender.Proofs.Syntax.Lower

/-!
How a repair run ends. Its stages follow one another, the first that fails ends the run, and the
exit code tells which it was; a search that comes to its end is the last stage.
-/

namespace Mender.Command

open Files Hotspot Suite

inductive Ending where
  | document (failure : Failure)
  | settings (failure : Failure)
  | tests (failure : Failure)
  | harness (fault : HarnessFault)
  | program (fault : Syntax.Fault)
  | original (failure : Failure)
  | searched (report : Search.Report)

def Ending.exit : Ending → Exit
  | document _ | tests _ | harness _ | original _ => .error
  | settings _ | program _ => .invalidInput
  | searched report => exitOf report.outcome

def Ending.result : Ending → Except Failure Exit
  | document failure | tests failure | original failure => .error failure
  | harness fault => .error (.harness fault)
  | settings _ | program _ => .ok .invalidInput
  | searched report => .ok (exitOf report.outcome)

structure Settled (host : Host) (a : RepairArguments) (files : Disk) (config : Config) : Prop where
  given : ∃ document, (Config.load host files a.config).1 = .ok document ∧
    document.override a.overrides = config
  valid : config.validate host = .ok ()

structure Equipped (host : Host) (a : RepairArguments) (files : Disk) (config : Config)
    (h : CommandHarness) : Prop extends Settled host a files config where
  created : ∃ source command tests, config.source = some source ∧
    config.command = some command ∧
    (config.resolveTests host files (workdirOf files)).1 = .ok tests ∧
    CommandHarness.create host files (workdirOf files) source command tests = .ok h

/-- The stages in their order: each is reached by passing all those before it. -/
inductive Ends (host : Host) (a : RepairArguments) (files : Disk) : Ending → Prop
  | document {e : Failure} (hload : (Config.load host files a.config).1 = .error e) :
      Ends host a files (.document e)
  | settings {document : Config} {e : Failure}
      (hload : (Config.load host files a.config).1 = .ok document)
      (hvalid : (document.override a.overrides).validate host = .error e) :
      Ends host a files (.settings e)
  | tests {config : Config} {e : Failure} (hs : Settled host a files config)
      (htests : (config.resolveTests host files (workdirOf files)).1 = .error e) :
      Ends host a files (.tests e)
  | harness {config : Config} {source command : String} {tests : List String}
      {fault : HarnessFault} (hs : Settled host a files config)
      (hsource : config.source = some source) (hcommand : config.command = some command)
      (htests : (config.resolveTests host files (workdirOf files)).1 = .ok tests)
      (hcreate : CommandHarness.create host files (workdirOf files) source command tests =
        .error fault) :
      Ends host a files (.harness fault)
  | program {config : Config} {h : CommandHarness} {fault : Syntax.Fault}
      (hh : Equipped host a files config h)
      (hparse : Syntax.parse host.grammar h.original = .error fault) :
      Ends host a files (.program fault)
  | original {config : Config} {h : CommandHarness} {tree : Syntax.Node} {e : Failure}
      (hh : Equipped host a files config h)
      (hparse : Syntax.parse host.grammar h.original = .ok tree)
      (hload : (h.load h.original files).result = .error e) :
      Ends host a files (.original e)
  | searched {config : Config} {h : CommandHarness} {tree : Syntax.Node} {report : Search.Report}
      (hh : Equipped host a files config h)
      (hparse : Syntax.parse host.grammar h.original = .ok tree)
      (hrun : (searched host (detect tree) h config.lookahead files).1 = .ok report) :
      Ends host a files (.searched report)

section Stages

variable {host : Host} {color : Bool} {a : RepairArguments} {files : Disk} {config : Config}
  {h : CommandHarness} {c : Console}

theorem load_of_missing {path : String} {p : Place} (hp : files.locate path = .ok p)
    (he : files.entry? p = none) : (Config.load host files path).1 = .ok {} := by
  rw [Config.load, Disk.exists?, Disk.lookup_eq_notFound hp he]
  rfl

theorem Settled.unique {config' : Config} (hs : Settled host a files config)
    (hs' : Settled host a files config') : config = config' := by
  obtain ⟨document, hload, rfl⟩ := hs.given
  obtain ⟨document', hload', rfl⟩ := hs'.given
  rw [hload] at hload'
  rw [Except.ok.inj hload']

theorem Settled.exists_source (hs : Settled host a files config) :
    ∃ source command, config.source = some source ∧ config.command = some command := by
  obtain ⟨⟨source, hsource⟩, ⟨command, hcommand⟩, -, -⟩ := Config.validate_eq_ok_iff.mp hs.valid
  exact ⟨source, command, hsource, hcommand⟩

/-- A search fails only if the program cannot be written before the first test. -/
theorem searched_error_iff {tree : Syntax.Node} {lookahead : Nat} {e : Failure}
    (hparse : Syntax.parse host.grammar h.original = .ok tree) :
    (searched host (detect tree) h lookahead files).1 = .error e ↔
      (h.load h.original files).result = .error e := by
  have hlist : (searched host (detect tree) h lookahead files).1 =
      (Search.searchList h.original (h.harness host) (Search.variants tree) ⟨files, #[]⟩).1 :=
    (Search.run_alike (Syntax.hasHoles_parse hparse) _ _ _ _ _ rfl).1
  rw [hlist, Search.searchList_error_iff]
  rfl

theorem load_of_searched {tree : Syntax.Node} {lookahead : Nat} {report : Search.Report}
    (hparse : Syntax.parse host.grammar h.original = .ok tree)
    (hrun : (searched host (detect tree) h lookahead files).1 = .ok report) :
    (h.load h.original files).result = .ok () := by
  cases hload : (h.load h.original files).result with
  | error e =>
    rw [(searched_error_iff hparse).mpr hload] at hrun
    cases hrun
  | ok _ => rfl

/-! A stage that fails is passed by none of those behind it. -/

theorem Settled.load_ne_error (hs : Settled host a files config) {e : Failure} :
    (Config.load host files a.config).1 ≠ .error e := by
  obtain ⟨document, hload, -⟩ := hs.given
  intro hfail
  cases hload.symm.trans hfail

theorem Settled.validate_ne_error (hs : Settled host a files config) {document : Config}
    {e : Failure} (hload : (Config.load host files a.config).1 = .ok document) :
    (document.override a.overrides).validate host ≠ .error e := by
  obtain ⟨document', hload', rfl⟩ := hs.given
  obtain rfl := Except.ok.inj (hload'.symm.trans hload)
  intro hfail
  cases hs.valid.symm.trans hfail

theorem Equipped.resolveTests_ne_error {config' : Config} (hh : Equipped host a files config h)
    (hs : Settled host a files config') {e : Failure} :
    (config'.resolveTests host files (workdirOf files)).1 ≠ .error e := by
  obtain rfl := hs.unique hh.toSettled
  obtain ⟨source, command, tests, -, -, htests, -⟩ := hh.created
  intro hfail
  cases htests.symm.trans hfail

theorem Equipped.create_eq {config' : Config} {source command : String} {tests : List String}
    (hh : Equipped host a files config h) (hs : Settled host a files config')
    (hsource : config'.source = some source) (hcommand : config'.command = some command)
    (htests : (config'.resolveTests host files (workdirOf files)).1 = .ok tests) :
    CommandHarness.create host files (workdirOf files) source command tests = .ok h := by
  obtain rfl := hs.unique hh.toSettled
  obtain ⟨source', command', tests', hsource', hcommand', htests', hcreate⟩ := hh.created
  obtain rfl := Option.some.inj (hsource'.symm.trans hsource)
  obtain rfl := Option.some.inj (hcommand'.symm.trans hcommand)
  obtain rfl := Except.ok.inj (htests'.symm.trans htests)
  exact hcreate

theorem Equipped.unique {config' : Config} {h' : CommandHarness}
    (hh : Equipped host a files config h) (hh' : Equipped host a files config' h') :
    config = config' ∧ h = h' := by
  obtain ⟨source, command, tests, hsource, hcommand, htests, hcreate⟩ := hh'.created
  have hsame := hh.create_eq hh'.toSettled hsource hcommand htests
  exact ⟨hh.toSettled.unique hh'.toSettled, Except.ok.inj (hsame.symm.trans hcreate)⟩

def Ending.stage : Ending → Nat
  | document _ => 0
  | settings _ => 1
  | tests _ => 2
  | harness _ => 3
  | program _ => 4
  | original _ => 5
  | searched _ => 6

/-- A run that ends at some stage does not end at a later one. -/
theorem Ends.eq_of_stage_le {e e' : Ending} (he : Ends host a files e)
    (he' : Ends host a files e') (hle : e.stage ≤ e'.stage) : e = e' := by
  cases he with
  | document hload =>
    cases he' with
    | document hload' => rw [Except.error.inj (hload.symm.trans hload')]
    | settings hload' => cases hload.symm.trans hload'
    | tests hs | harness hs => exact absurd hload hs.load_ne_error
    | program hh | original hh | searched hh => exact absurd hload hh.load_ne_error
  | settings hload hvalid =>
    cases he' with
    | document => simp [Ending.stage] at hle
    | settings hload' hvalid' =>
      obtain rfl := Except.ok.inj (hload.symm.trans hload')
      rw [Except.error.inj (hvalid.symm.trans hvalid')]
    | tests hs | harness hs => exact absurd hvalid (hs.validate_ne_error hload)
    | program hh | original hh | searched hh => exact absurd hvalid (hh.validate_ne_error hload)
  | tests hs htests =>
    cases he' with
    | document | settings => simp [Ending.stage] at hle
    | tests hs' htests' =>
      obtain rfl := hs.unique hs'
      rw [Except.error.inj (htests.symm.trans htests')]
    | harness hs' _ _ htests' =>
      obtain rfl := hs.unique hs'
      cases htests.symm.trans htests'
    | program hh | original hh | searched hh => exact absurd htests (hh.resolveTests_ne_error hs)
  | harness hs hsource hcommand htests hcreate =>
    cases he' with
    | document | settings | tests => simp [Ending.stage] at hle
    | harness hs' hsource' hcommand' htests' hcreate' =>
      obtain rfl := hs.unique hs'
      obtain rfl := Option.some.inj (hsource.symm.trans hsource')
      obtain rfl := Option.some.inj (hcommand.symm.trans hcommand')
      obtain rfl := Except.ok.inj (htests.symm.trans htests')
      rw [Except.error.inj (hcreate.symm.trans hcreate')]
    | program hh | original hh | searched hh =>
      cases (hh.create_eq hs hsource hcommand htests).symm.trans hcreate
  | program hh hparse =>
    cases he' with
    | document | settings | tests | harness => simp [Ending.stage] at hle
    | program hh' hparse' =>
      obtain ⟨-, rfl⟩ := hh.unique hh'
      rw [Except.error.inj (hparse.symm.trans hparse')]
    | original hh' hparse' | searched hh' hparse' =>
      obtain ⟨-, rfl⟩ := hh.unique hh'
      cases hparse.symm.trans hparse'
  | original hh hparse hload =>
    cases he' with
    | document | settings | tests | harness | program => simp [Ending.stage] at hle
    | original hh' _ hload' =>
      obtain ⟨-, rfl⟩ := hh.unique hh'
      rw [Except.error.inj (hload.symm.trans hload')]
    | searched hh' hparse' hrun =>
      obtain ⟨-, rfl⟩ := hh.unique hh'
      cases hload.symm.trans (load_of_searched hparse' hrun)
  | searched hh hparse hrun =>
    cases he' with
    | document | settings | tests | harness | program | original => simp [Ending.stage] at hle
    | searched hh' hparse' hrun' =>
      obtain ⟨rfl, rfl⟩ := hh.unique hh'
      obtain rfl := Except.ok.inj (hparse.symm.trans hparse')
      rw [Except.ok.inj (hrun.symm.trans hrun')]

theorem Ends.unique {e e' : Ending} (he : Ends host a files e) (he' : Ends host a files e') :
    e = e' := by
  rcases Nat.le_total e.stage e'.stage with hle | hle
  · exact he.eq_of_stage_le he' hle
  · exact (he'.eq_of_stage_le he hle).symm

def Ending.isEarly : Ending → Bool
  | document _ | settings _ | tests _ | harness _ => true
  | program _ | original _ | searched _ => false

theorem Ends.not_equipped {ending : Ending} (he : Ends host a files ending)
    (hearly : ending.isEarly = true) : ¬Equipped host a files config h := by
  intro hh
  cases he with
  | document hload => exact hh.load_ne_error hload
  | settings hload hvalid => exact hh.validate_ne_error hload hvalid
  | tests hs htests => exact hh.resolveTests_ne_error hs htests
  | harness hs hsource hcommand htests hcreate =>
    cases (hh.create_eq hs hsource hcommand htests).symm.trans hcreate
  | program | original | searched => cases hearly

inductive Searches (host : Host) (h : CommandHarness) (lookahead : Nat) (files : Disk) :
    Disk → Prop
  | unparsed {fault : Syntax.Fault}
      (hparse : Syntax.parse host.grammar h.original = .error fault) :
      Searches host h lookahead files files
  | parsed {tree : Syntax.Node} (hparse : Syntax.parse host.grammar h.original = .ok tree) :
      Searches host h lookahead files (searched host (detect tree) h lookahead files).2.state

/-- What a run leaves of the files, and what it has to say of the release of its harness. -/
inductive Leaves (host : Host) (a : RepairArguments) (files : Disk) : Disk → List Note → Prop
  | unequipped (hno : ∀ config h, ¬Equipped host a files config h) : Leaves host a files files []
  | released {config : Config} {h : CommandHarness} {between : Disk}
      (hh : Equipped host a files config h) (hs : Searches host h config.lookahead files between) :
      Leaves host a files (h.release between).1 (h.release between).2

theorem Leaves.eq_of_unequipped {left : Disk} {notes : List Note}
    (hl : Leaves host a files left notes) (hno : ∀ config h, ¬Equipped host a files config h) :
    left = files := by
  cases hl with
  | unequipped => rfl
  | released hh => exact absurd hh (hno _ _)

theorem Leaves.of_equipped {left : Disk} {notes : List Note} (hl : Leaves host a files left notes)
    (hh : Equipped host a files config h) : ∃ between,
      Searches host h config.lookahead files between ∧ (left, notes) = h.release between := by
  cases hl with
  | unequipped hno => exact absurd hh (hno _ _)
  | released hh' hs =>
    obtain ⟨rfl, rfl⟩ := hh.unique hh'
    exact ⟨_, hs, rfl⟩

def Ended (host : Host) (a : RepairArguments) (files : Disk) (r : Except Failure Exit)
    (c : Console) : Prop :=
  ∃ ending notes, Ends host a files ending ∧ r = ending.result ∧
    Leaves host a files c.files notes ∧ ∀ n ∈ notes, .noted n ∈ c.emissions

theorem Ends.ended {ending : Ending} (he : Ends host a files ending)
    (hearly : ending.isEarly = true) (hc : c.files = files) :
    Ended host a files ending.result c := by
  refine ⟨ending, [], he, rfl, ?_, fun n hn => by cases hn⟩
  rw [hc]
  exact .unequipped fun _ _ => he.not_equipped hearly

theorem released_leads (hh : Equipped host a files config h) (hc : c.files = files)
    (source : String) :
    Leads c (do
      match ← Action.releasing h (searchProgram host color a source h config.lookahead) with
      | none => return .invalidInput
      | some report =>
        Action.out (showReport color a.json report h.original)
        return exitOf report.outcome) (Ended host a files) := by
  subst hc
  cases hparse : Syntax.parse host.grammar h.original with
  | error fault =>
    have hleaves := Leaves.released hh (.unparsed hparse)
    apply (Leads.releasing (Leads.searchProgram_of_error a source hparse)).bind
    · rintro _ c' ⟨⟨⟩, hfiles, hnotes⟩
      rw [← hfiles] at hleaves
      exact ⟨_, _, .program hh hparse, rfl, hleaves, hnotes⟩
    · rintro e c' ⟨he, -⟩
      cases he
  | ok tree =>
    have hleaves := Leaves.released hh (.parsed hparse)
    apply (Leads.releasing (Leads.searchProgram_of_ok a source hparse)).bind
    · rintro found c' ⟨hfound, hfiles, hnotes⟩
      rw [← hfiles] at hleaves
      cases hrun : (searched host (detect tree) h config.lookahead c.files).1 with
      | error e =>
        rw [hrun] at hfound
        cases hfound
      | ok report =>
        rw [hrun] at hfound
        cases hfound
        have hends : Ends host a c.files (.searched report) := .searched hh hparse hrun
        refine ⟨_, _, hends, rfl, hleaves, fun n hn => ?_⟩
        exact Array.mem_push_of_mem _ (hnotes n hn)
    · rintro e c' ⟨he, hfiles, hnotes⟩
      rw [← hfiles] at hleaves
      cases hrun : (searched host (detect tree) h config.lookahead c.files).1 with
      | error e' =>
        rw [hrun] at he
        cases he
        have hfailed := (searched_error_iff hparse).mp hrun
        exact ⟨_, _, .original hh hparse hfailed, rfl, hleaves, hnotes⟩
      | ok report =>
        rw [hrun] at he
        cases he

theorem repair_leads (host : Host) (color : Bool) (a : RepairArguments) (c : Console) :
    Leads c (repair host color a) (Ended host a c.files) := by
  rw [repair]
  apply Leads.files_bind
  apply Leads.files_bind
  apply (Leads.told _).bind
  · rintro document c₁ ⟨hload, hc₁⟩
    generalize hconfig : document.override a.overrides = config
    dsimp only
    cases hvalid : config.validate host with
    | error e =>
      have he : Ends host a c.files (.settings e) := .settings hload.symm (hconfig ▸ hvalid)
      apply Leads.emit_bind
      exact he.ended rfl hc₁
    | ok _ =>
      have hs : Settled host a c.files config := ⟨⟨document, hload.symm, hconfig⟩, hvalid⟩
      obtain ⟨source, command, hsource, hcommand⟩ := hs.exists_source
      rw [hsource, hcommand]
      apply Leads.files_bind
      apply (Leads.told _).bind
      · rintro tests c₂ ⟨htests, hc₂⟩
        rw [hc₁] at htests hc₂
        apply Leads.files_bind
        rw [hc₂]
        cases hcreate :
            CommandHarness.create host c.files (workdirOf c.files) source command tests with
        | error fault =>
          have he : Ends host a c.files (.harness fault) :=
            .harness hs hsource hcommand htests.symm hcreate
          exact he.ended rfl hc₂
        | ok h =>
          have hh : Equipped host a c.files config h :=
            ⟨hs, source, command, tests, hsource, hcommand, htests.symm, hcreate⟩
          exact released_leads hh hc₂ source
      · rintro e c₂ ⟨htests, hc₂⟩
        rw [hc₁] at htests hc₂
        have he : Ends host a c.files (.tests e) := .tests hs htests.symm
        exact he.ended rfl hc₂
  · rintro e c₁ ⟨hload, hc₁⟩
    have he : Ends host a c.files (.document e) := .document hload.symm
    exact he.ended rfl hc₁

end Stages

end Mender.Command
