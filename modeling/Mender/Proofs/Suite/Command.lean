import Mender.Proofs.Files.Disk
import Mender.Proofs.Search.Protocol
import Mender.Suite.Command

namespace Mender.Suite

open Files Search

namespace CommandHarness

variable {host : Host} {h : CommandHarness} {files : Disk} {p : Place} {source test : String}

theorem of_create {workdir program command : String} {tests : List String}
    (hh : create host files workdir program command tests = .ok h) :
    h.program = join workdir program ∧ files.readText h.program = .ok h.original ∧
      h.tests = tests ∧ h.command ≠ [] := by
  rw [create] at hh
  cases hread : files.readText (join workdir program) with
  | error e =>
    rw [hread] at hh
    cases hh
  | ok original =>
    rw [hread] at hh
    dsimp only at hh
    split at hh
    · cases hh
    · cases hh
    · next hne _ =>
      cases hh
      exact ⟨rfl, hread, rfl, hne⟩

theorem load_cases (h : CommandHarness) (source : String) (files : Disk) :
    (∃ s, files.writeText h.program source = .ok s ∧ h.load source files = ⟨.ok (), [], s⟩) ∨
      ∃ e, files.writeText h.program source = .error e ∧
        h.load source files = ⟨.error (.within (.writing h.program) (.io e)), [], files⟩ := by
  cases hw : files.writeText h.program source with
  | ok s => exact Or.inl ⟨s, rfl, by rw [load, hw]⟩
  | error e => exact Or.inr ⟨e, rfl, by rw [load, hw]⟩

theorem release_cases (h : CommandHarness) (files : Disk) :
    (∃ s, files.writeText h.program h.original = .ok s ∧ h.release files = (s, [])) ∨
      ∃ e, files.writeText h.program h.original = .error e ∧ h.release files =
        (files, [.restoreFailed (.within (.restoring h.program) (.io e))]) := by
  cases hw : files.writeText h.program h.original with
  | ok s => exact Or.inl ⟨s, rfl, by rw [release, hw]⟩
  | error e => exact Or.inr ⟨e, rfl, by rw [release, hw]⟩

theorem entry?_load (hpath : h.program.startsWith "/" = true) (hp : p ≠ placeOf h.program) :
    Disk.entry? (h.load source files).state p = files.entry? p := by
  rcases h.load_cases source files with ⟨s, hw, hl⟩ | ⟨e, -, hl⟩
  · rw [hl]
    exact Disk.entry?_writeText hpath hw hp
  · rw [hl]

theorem entry?_release (hpath : h.program.startsWith "/" = true) (hp : p ≠ placeOf h.program) :
    Disk.entry? (h.release files).1 p = files.entry? p := by
  rcases h.release_cases files with ⟨s, hw, hr⟩ | ⟨e, -, hr⟩
  · rw [hr]
    exact Disk.entry?_writeText hpath hw hp
  · rw [hr]

theorem directory_of_load (hp : Disk.entry? (h.load source files).state p = some .directory) :
    files.entry? p = some .directory := by
  rcases h.load_cases source files with ⟨s, hw, hl⟩ | ⟨_, -, hl⟩
  · rw [hl] at hp
    exact Disk.directory_of_writeText hw hp
  · rwa [hl] at hp

theorem readText_load (hpath : h.program.startsWith "/" = true)
    (hl : (h.load source files).result = .ok ())
    (hempty : placeOf h.program = device → source = "") :
    (h.load source files).state.readText h.program = .ok source := by
  rcases h.load_cases source files with ⟨s, hw, hs⟩ | ⟨e, -, hs⟩
  · rw [hs]
    exact Disk.readText_writeText hpath hw hempty
  · rw [hs] at hl
    cases hl

theorem state_run (host : Host) (h : CommandHarness) (test : String) (files : Disk) :
    (h.run host test files).state = (runWords host h.workdir (h.words test) files).2 := by
  rw [run]
  split
  · next hw => rw [hw]
  · next hw =>
    rw [hw]
    split <;> rfl

theorem exists_words (hcommand : h.command ≠ []) (test : String) :
    ∃ program arguments, h.words test = program :: arguments := by
  obtain ⟨word, rest, hsplit⟩ := List.exists_cons_of_ne_nil hcommand
  exact ⟨_, _, by rw [words, hsplit, List.map_cons]⟩

theorem state_run_of_words {program : String} {arguments : List String}
    (hwords : h.words test = program :: arguments) :
    (h.run host test files).state = (host.spawn h.workdir program arguments files).2 := by
  rw [state_run, hwords, runWords]
  cases host.spawn h.workdir program arguments files with
  | mk result after => cases result <;> rfl

theorem of_run {P : Disk → Prop} (hspawn : ∀ program arguments,
    P (host.spawn h.workdir program arguments files).2 → P files)
    (hP : P (h.run host test files).state) : P files := by
  cases hwords : h.words test with
  | nil =>
    rw [state_run, hwords] at hP
    exact hP
  | cons program arguments =>
    rw [state_run_of_words hwords] at hP
    exact hspawn program arguments hP

end CommandHarness

end Mender.Suite
