import Mender.Search.Scripted
import Mender.Proofs.Search.Harness

namespace Mender.Search

namespace Check

def timeless : Check → Bool
  | runsFrom _ | loadsFrom _ => false
  | not check => check.timeless
  | and first second | or first second => first.timeless && second.timeless
  | _ => true

theorem eval_timeless {check : Check} (hc : check.timeless = true) (s s' : Scripted)
    (source : String) : check.eval s source = check.eval s' source := by
  induction check with
  | const | contains | equals | starts | ends | broken => rfl
  | runsFrom | loadsFrom => cases hc
  | not check ih => rw [eval, eval, ih hc]
  | and first second ih₁ ih₂ | or first second ih₁ ih₂ =>
    rw [timeless, Bool.and_eq_true] at hc
    rw [eval, eval, ih₁ hc.1, ih₂ hc.2]

end Check

namespace Scripted

variable {tests : List (String × Check)} {refuses : Check}

theorem isOk_load (source : String) (s : Scripted) :
    (load refuses source s).result.isOk =
      (refuses.eval { s with loads := s.loads + 1 } source).toOption.any not := by
  unfold load
  dsimp only
  cases refuses.eval { s with loads := s.loads + 1 } source with
  | error e => rfl
  | ok refused => cases refused <;> rfl

theorem text_load (source : String) (s : Scripted) :
    (load refuses source s).state.text =
      bif (load refuses source s).result.isOk then source else s.text := by
  unfold load
  dsimp only
  cases refuses.eval { s with loads := s.loads + 1 } source with
  | error e => rfl
  | ok refused => cases refused <;> rfl

def check (tests : List (String × Check)) (name : String) : Check :=
  ((tests.find? (·.1 = name)).map (·.2)).getD (.const false)

theorem result_run (name : String) (s : Scripted) :
    (run tests name s).result =
      (check tests name).eval { s with runs := s.runs + 1 } s.text := by
  unfold run
  dsimp only
  rw [← check]
  cases (check tests name).eval { s with runs := s.runs + 1 } s.text <;> rfl

theorem text_run (name : String) (s : Scripted) : (run tests name s).state.text = s.text := by
  unfold run
  dsimp only
  split <;> rfl

theorem text_of_reached {s₀ s : Scripted} {last : Option String}
    (hs : (harness tests refuses).Reached s₀ last s) : s.text = last.getD s₀.text := by
  induction hs with
  | start => rfl
  | load source _ ok _ =>
    change (load refuses source _).result.isOk = true at ok
    change (load refuses source _).state.text = source
    rw [text_load, ok]
    rfl
  | refused source _ no ih =>
    change (load refuses source _).result.isOk = false at no
    change (load refuses source _).state.text = _
    rw [text_load, no, ← ih]
    rfl
  | run test _ ih => exact (text_run test _).trans ih

theorem steady (hr : refuses.timeless = true) (ht : ∀ p ∈ tests, p.2.timeless = true)
    (s₀ : Scripted) : (harness tests refuses).Steady s₀ where
  load := by
    intro _ _ u u' source _ _
    change (load refuses source u).result.isOk = (load refuses source u').result.isOk
    rw [isOk_load, isOk_load, Check.eval_timeless hr]
  run := by
    intro text u u' test hu hu'
    have htext : u.text = u'.text := (text_of_reached hu).trans (text_of_reached hu').symm
    change (run tests test u).result.toOption = (run tests test u').result.toOption
    rw [result_run, result_run, htext]
    have htimeless : (check tests test).timeless = true := by
      unfold check
      cases hfind : tests.find? (·.1 = test) with
      | none => rfl
      | some p => exact ht p (List.mem_of_find?_eq_some hfind)
    exact congrArg Except.toOption (Check.eval_timeless htimeless _ _ _)

end Scripted

end Mender.Search
