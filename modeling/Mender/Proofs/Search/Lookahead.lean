import Mender.Proofs.Search.Repairs

namespace Mender.Search

open Syntax Hotspot Variant

variable {σ α β : Type}

theorem bind_apply (x : Act σ α) (f : α → Act σ β) (s : Session σ) :
    (x >>= f) s = f (x s).1 (x s).2 := rfl

theorem searchList_error_iff {h : Harness σ} (original : String)
    (variants : List (Assignment × String)) (s : Session σ) {e : Failure} :
    (searchList original h variants s).1 = .error e ↔
      (h.load original s.state).result = .error e := by
  have hload : (Act.load h original s).1 = (h.load original s.state).result := rfl
  rw [searchList, failingTests, bind_assoc, bind_apply, hload]
  cases (h.load original s.state).result with
  | error e' =>
    change (Except.error e' : Except Failure Report) = .error e ↔ _
    rw [Except.error.injEq, Except.error.injEq]
  | ok _ =>
    have hne (r : Report) : (Except.ok r : Except Failure Report) ≠ .error e :=
      fun hc => by cases hc
    refine iff_of_false ?_ fun hc => by cases hc
    dsimp only
    rw [bind_assoc, bind_apply, pure_bind]
    cases (Act.failures h h.tests (Act.load h original s).2).1 with
    | nil => exact hne _
    | cons test tests =>
      dsimp only
      rw [bind_apply, bind_apply, bind_apply]
      generalize judgeBatch h (test :: tests) 0 {} variants _ = r
      obtain ⟨⟨index, stats, fix?⟩, s'⟩ := r
      cases fix? with
      | some fix => exact hne _
      | none => exact hne _

section Detect

variable {T : Node} (original : String) (h : Harness σ)

/-- Two searches that differ in their lookahead alone give the same result, leave the harness in the
same state and do the same in the same order, up to when the assignments are made. A search fails
only with the failure to load the original, for every variant can be built. -/
theorem run_lookahead (hT : T.hasHoles = false) (o o' : Options) (s : Session σ) :
    let t := detect T
    let r := (run t original h o).run s
    let r' := (run t original h o').run s
    r.1 = r'.1 ∧ r.2.state = r'.2.state ∧
    (r.2.events.toList.filter fun e => !e.isPull) = (r'.2.events.toList.filter fun e => !e.isPull) ∧
    (∀ e, r.1 = .error e ↔ (h.load original s.state).result = .error e) ∧
    ∀ a : Assignment, a.Fits t → ∃ n, build t a = .ok n := by
  intro t r r'
  have hplain := run_alike hT original h o
  obtain ⟨hresult, hseen⟩ := (hplain.trans (run_alike hT original h o').symm) s s rfl
  obtain ⟨hstate, hevents⟩ := Prod.mk.inj hseen
  refine ⟨hresult, hstate, hevents, fun e => ?_, fun a ha => ⟨_, build_eq_variant hT ha⟩⟩
  have hlist : r.1 = (searchList original h (variants T) s).1 := (hplain s s rfl).1
  rw [hlist, searchList_error_iff]

end Detect

/-- A suite that changes its mind: `late` passes from its fourth run on, and the ninth load and all
after it are refused. -/
def flakySuite : Harness Scripted :=
  Scripted.harness [("late", .runsFrom 4), ("kept", .contains "select")] (.loadsFrom 9)

theorem run_lookahead_nested :
    nested.hasHoles = false ∧
      ((run (detect nested) nested.text flakySuite ⟨0⟩).run ⟨{}, #[]⟩).1 =
        ((run (detect nested) nested.text flakySuite ⟨5⟩).run ⟨{}, #[]⟩).1 ∧
      (flakySuite.load nested.text {}).result = .ok () ∧
      ∃ r, ((run (detect nested) nested.text flakySuite ⟨5⟩).run ⟨{}, #[]⟩).1 = .ok r := by
  obtain ⟨hresult, -, -, hfails, -⟩ :=
    run_lookahead (T := nested) nested.text flakySuite rfl ⟨0⟩ ⟨5⟩ ⟨{}, #[]⟩
  have hload : (flakySuite.load nested.text {}).result = .ok () := by decide +kernel
  refine ⟨rfl, hresult, hload, ?_⟩
  rw [← hresult]
  cases hrun : ((run (detect nested) nested.text flakySuite ⟨0⟩).run ⟨{}, #[]⟩).1 with
  | ok r => exact ⟨r, rfl⟩
  | error e =>
    rw [(hfails e).mp hrun] at hload
    cases hload

end Mender.Search
