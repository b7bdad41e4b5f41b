import Mender.Proofs.Search.Batches
import Mender.Proofs.Search.Harness

namespace Mender.Search

open Syntax Hotspot Variant

/-- The first variant with an accepted text, `judged` having come before all of them. -/
def pick (accepts : String → Bool) (judged : Nat) : List (Assignment × String) → Option Fix
  | [] => none
  | (a, source) :: rest =>
    if accepts source then some ⟨judged + 1, a, source⟩ else pick accepts (judged + 1) rest

section Pick

variable {accepts : String → Bool} {judged : Nat} {variants : List (Assignment × String)}

theorem pick_eq_none_iff :
    pick accepts judged variants = none ↔ ∀ v ∈ variants, accepts v.2 = false := by
  induction variants generalizing judged with
  | nil => simp [pick]
  | cons v variants ih =>
    rw [pick, List.forall_mem_cons, ← @ih (judged + 1)]
    cases h : accepts v.2 <;> simp

theorem exists_of_pick {fix : Fix} (h : pick accepts judged variants = some fix) :
    ∃ i, fix.index = judged + i + 1 ∧ variants[i]? = some (fix.assignment, fix.source) ∧
      accepts fix.source = true ∧ ∀ j < i, ∀ v, variants[j]? = some v → accepts v.2 = false := by
  induction variants generalizing judged with
  | nil => cases h
  | cons v variants ih =>
    rw [pick] at h
    split at h
    · next ha =>
      obtain rfl := Option.some.inj h
      exact ⟨0, rfl, rfl, ha, fun j hj => absurd hj (Nat.not_lt_zero j)⟩
    · next ha =>
      obtain ⟨i, hi, hv, hs, hb⟩ := ih h
      refine ⟨i + 1, by omega, hv, hs, ?_⟩
      intro j hj u hu
      cases j with
      | zero =>
        obtain rfl := Option.some.inj hu
        exact Bool.eq_false_iff.mpr ha
      | succ j => exact hb j (by omega) u hu

end Pick

theorem judged_record (stats : Stats) (v : Verdict) :
    (stats.record v).judged = stats.judged + 1 := by
  cases v <;> rfl

def ending? {σ : Type} (h : Harness σ) (s₀ : σ) (original : String)
    (variants : List (Assignment × String)) : Option Outcome :=
  if h.loads s₀ original = true then
    if h.tests.all (h.passes s₀ original) = true then some .noFailures
    else some ((pick (h.accepts s₀) 0 variants).elim .exhausted .accepted)
  else none

theorem filter_not_eq_nil_iff {α : Type} {p : α → Bool} {xs : List α} :
    (xs.filter fun x => !p x) = [] ↔ xs.all p = true := by
  simp [List.filter_eq_nil_iff]

section Steady

variable {σ : Type} {h : Harness σ} {s₀ : σ} {last : Option String} {failing : List String}

theorem judge_ensures (hs : h.Steady s₀) (hf : ∀ test ∈ failing, test ∈ h.tests)
    (source : String) : Ensures h s₀ last (judge h failing source) fun v _ =>
      v = .accepted ↔ h.accepts s₀ source = true := by
  apply (Act.load_ensures hs source).bind
  rintro r last' ⟨hr, hl⟩
  rw [Harness.accepts, ← hr]
  cases r with
  | error e => exact .emit_bind (.pure (iff_of_false Verdict.noConfusion Bool.false_ne_true))
  | ok _ =>
    obtain rfl := hl hr.symm
    apply (Act.allPass_ensures hs failing).bind
    rintro b _ ⟨hb, rfl⟩
    cases b with
    | false =>
      apply Ensures.pure
      -- The failing tests belong to the suite, so what fails one of them is not accepted.
      refine iff_of_false Verdict.noConfusion fun hall => ?_
      obtain ⟨test, htest, hno⟩ := List.all_eq_false.mp hb.symm
      exact hno (List.all_eq_true.mp hall test (hf test htest))
    | true =>
      apply (Act.allPass_ensures hs h.tests).bind
      rintro b _ ⟨rfl, -⟩
      cases hall : h.tests.all (h.passes s₀ source) with
      | true => exact .pure (iff_of_true rfl rfl)
      | false => exact .pure (iff_of_false Verdict.noConfusion Bool.false_ne_true)

theorem judgeBatch_ensures (hs : h.Steady s₀) (hf : ∀ test ∈ failing, test ∈ h.tests)
    (index : Nat) (stats : Stats) (variants : List (Assignment × String)) :
    Ensures h s₀ last (judgeBatch h failing index stats variants) fun r _ =>
      r.2.2 = pick (h.accepts s₀) index variants := by
  induction variants generalizing last index stats with
  | nil => exact .pure rfl
  | cons v variants ih =>
    obtain ⟨a, source⟩ := v
    apply (judge_ensures hs hf source).bind
    intro verdict last' hv
    apply Ensures.emit_bind
    apply Ensures.emit_bind
    rw [pick]
    by_cases ha : verdict = .accepted
    · rw [if_pos ha, if_pos (hv.mp ha)]
      exact .pure rfl
    · rw [if_neg ha, if_neg (mt hv.mpr ha)]
      exact ih (index + 1) (stats.record verdict)

theorem failingTests_ensures (hs : h.Steady s₀) (original : String) :
    Ensures h s₀ last (failingTests h original) fun r _ =>
      r.toOption = if h.loads s₀ original = true then
        some (h.tests.filter fun test => !h.passes s₀ original test) else none := by
  apply (Act.load_ensures hs original).bind
  rintro r last' ⟨hr, hl⟩
  rw [← hr]
  cases r with
  | error e => exact .pure rfl
  | ok _ =>
    obtain rfl := hl hr.symm
    apply (Act.failures_ensures hs h.tests).bind
    rintro failing _ ⟨rfl, -⟩
    exact .pure rfl

theorem searchList_ensures (hs : h.Steady s₀) (original : String)
    (variants : List (Assignment × String)) :
    Ensures h s₀ last (searchList original h variants) fun r _ =>
      (r.map Report.outcome).toOption = ending? h s₀ original variants := by
  apply (failingTests_ensures hs original).bind
  rintro r last' hr
  rw [ending?]
  by_cases hl : h.loads s₀ original = true
  · rw [if_pos hl] at hr ⊢
    cases r with
    | error e => cases hr
    | ok failing =>
      obtain rfl : failing = _ := Option.some.inj hr
      cases hf : h.tests.filter fun test => !h.passes s₀ original test with
      | nil =>
        rw [if_pos (filter_not_eq_nil_iff.mp hf)]
        exact .emit_bind (.pure rfl)
      | cons test tests =>
        have hall : ¬h.tests.all (h.passes s₀ original) = true := by
          rw [← filter_not_eq_nil_iff, hf]
          exact List.cons_ne_nil test tests
        have hsub : ∀ name ∈ test :: tests, name ∈ h.tests := by
          rw [← hf]
          exact fun name hname => List.mem_of_mem_filter hname
        rw [if_neg hall]
        apply Ensures.emit_bind
        apply Ensures.emit_bind
        apply (judgeBatch_ensures hs hsub 0 {} variants).bind
        rintro ⟨index, stats, fix?⟩ _ hfix
        obtain rfl : fix? = pick (h.accepts s₀) 0 variants := hfix
        cases pick (h.accepts s₀) 0 variants with
        | some fix => exact .pure rfl
        | none => exact .emit_bind (.pure rfl)
  · rw [if_neg hl] at hr ⊢
    cases r with
    | error e => exact .pure rfl
    | ok failing => cases hr

end Steady

end Mender.Search
