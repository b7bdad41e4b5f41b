import Mathlib.Data.List.TakeWhile
import Mender.Diff.Unified
import Mender.Proofs.Diff.Edit

namespace Mender.Diff

def leadLength (script : List Edit) : Nat := (script.takeWhile (·.isKeep)).length

theorem leadLength_cons_keep {e : Edit} (he : e.isKeep) (script : List Edit) :
    leadLength (e :: script) = leadLength script + 1 := by
  rw [leadLength, List.takeWhile_cons_of_pos he]
  rfl

theorem leadLength_cons_change {e : Edit} (he : ¬e.isKeep) (script : List Edit) :
    leadLength (e :: script) = 0 := by
  rw [leadLength, List.takeWhile_cons_of_neg he]
  rfl

theorem keptRun_eq (script : List Edit) :
    keptRun script = (leadLength script, decide ¬Quiet script) := by
  induction script with
  | nil => rfl
  | cons e script ih =>
    cases e with
    | keep l =>
      have hquiet : Quiet (.keep l :: script) ↔ Quiet script := by
        simp [Quiet, Edit.isKeep]
      rw [keptRun, ih, leadLength_cons_keep rfl]
      simp [hquiet]
    | delete l => simp [keptRun, leadLength, Quiet, Edit.isKeep]
    | insert l => simp [keptRun, leadLength, Quiet, Edit.isKeep]

theorem takeHunk_cons (context : Nat) (e : Edit) (script : List Edit) :
    takeHunk context (e :: script) =
      if e.isKeep ∧ (Quiet (e :: script) ∨ 2 * context < leadLength (e :: script)) then
        (e :: script).splitAt (min (leadLength (e :: script)) context)
      else (e :: (takeHunk context script).1, (takeHunk context script).2) := by
  rw [takeHunk, keptRun_eq]
  simp [List.splitAt_eq]

theorem Quiet.length_le_lead {run script : List Edit} (hq : Quiet run) (h : run <+: script) :
    run.length ≤ leadLength script := by
  induction run generalizing script with
  | nil => exact Nat.zero_le _
  | cons e run ih =>
    obtain ⟨tail, rfl⟩ := h
    obtain ⟨he, hrun⟩ := List.forall_mem_cons.mp hq
    have hle : run.length ≤ leadLength (run ++ tail) := ih hrun (List.prefix_append _ _)
    rw [List.cons_append, leadLength_cons_keep he, List.length_cons]
    omega

theorem quiet_take {script : List Edit} {k : Nat} (hk : k ≤ leadLength script) :
    Quiet (script.take k) := by
  have htake : script.take k = (script.takeWhile (·.isKeep)).take k := by
    conv_lhs => rw [← List.takeWhile_append_dropWhile (p := (·.isKeep)) (l := script)]
    exact List.take_append_of_le_length hk
  intro e he
  rw [htake] at he
  exact List.mem_takeWhile_imp (List.mem_of_mem_take he)

theorem leadLength_drop {script : List Edit} {k : Nat} (hk : k ≤ leadLength script) :
    leadLength (script.drop k) = leadLength script - k := by
  induction k generalizing script with
  | zero => rfl
  | succ k ih =>
    cases script with
    | nil => exact absurd hk (Nat.not_succ_le_zero k)
    | cons e script =>
      by_cases he : e.isKeep
      · rw [leadLength_cons_keep he] at hk ⊢
        rw [List.drop_succ_cons, ih (by omega)]
        omega
      · rw [leadLength_cons_change he] at hk
        omega

theorem Quiet.leadLength_eq {script : List Edit} (h : Quiet script) :
    leadLength script = script.length := by
  rw [leadLength, List.takeWhile_eq_self_iff.mpr h]

theorem leadLength_le (script : List Edit) : leadLength script ≤ script.length :=
  (List.takeWhile_prefix _).length_le

theorem takeHunk_far (context : Nat) (script : List Edit) :
    Quiet (takeHunk context script).2 ∨ context < leadLength (takeHunk context script).2 := by
  induction script with
  | nil => exact .inl (List.forall_mem_nil _)
  | cons e script ih =>
    rw [takeHunk_cons]
    split
    · next hstop =>
      rw [List.splitAt_eq]
      rcases hstop.2 with hq | hlong
      · exact .inl fun _ h => hq _ (List.mem_of_mem_drop h)
      · right
        rw [Nat.min_eq_right (by omega), leadLength_drop (by omega)]
        omega
    · exact ih

theorem takeHunk_trail (context : Nat) (script : List Edit) : ∃ trail, Quiet trail ∧
    trail.length ≤ context ∧ (trail.length = context ∨ (takeHunk context script).2 = []) ∧
    ((takeHunk context script).1 = trail ∧ (Quiet script ∨ 2 * context < leadLength script) ∨
      ∃ core e, (takeHunk context script).1 = core ++ e :: trail ∧ ¬e.isKeep) := by
  induction script with
  | nil => exact ⟨[], List.forall_mem_nil _, Nat.zero_le _, .inr rfl, .inl ⟨rfl, .inl
      (List.forall_mem_nil _)⟩⟩
  | cons e script ih =>
    rw [takeHunk_cons]
    split
    · next hstop =>
      have hle := leadLength_le (e :: script)
      rw [List.splitAt_eq]
      refine ⟨_, quiet_take (Nat.min_le_left _ _), ?_, ?_, .inl ⟨rfl, hstop.2⟩⟩
      · rw [List.length_take]
        omega
      · rcases hstop.2 with hq | hlong
        · by_cases hc : context ≤ (e :: script).length
          · left
            rw [hq.leadLength_eq, List.length_take]
            omega
          · right
            rw [hq.leadLength_eq]
            exact List.drop_of_length_le (by omega)
        · left
          rw [List.length_take]
          omega
    · next hgo =>
      obtain ⟨trail, hq, hle, hfull, hhunk⟩ := ih
      refine ⟨trail, hq, hle, hfull, .inr ?_⟩
      rcases hhunk with ⟨hhunk, hstop⟩ | ⟨core, d, hhunk, hd⟩
      · -- The hunk stops behind `e`, so `e` is a change: a kept line would have stopped it too.
        refine ⟨[], e, congrArg (e :: ·) hhunk, ?_⟩
        intro he
        apply hgo
        refine ⟨he, hstop.imp ?_ ?_⟩
        · exact fun hq => List.forall_mem_cons.mpr ⟨he, hq⟩
        · rw [leadLength_cons_keep he]
          omega
      · exact ⟨e :: core, d, congrArg (e :: ·) hhunk, hd⟩

theorem takeHunk_between (context : Nat) (script : List Edit) :
    ∀ run, run <:+: (takeHunk context script).1 → Quiet run → run.length ≤ 2 * context := by
  induction script with
  | nil =>
    intro run hrun _
    rw [List.infix_nil.mp hrun]
    exact Nat.zero_le _
  | cons e script ih =>
    intro run hrun hq
    rw [takeHunk_cons] at hrun
    split at hrun
    · rw [List.splitAt_eq] at hrun
      have hle := hrun.length_le
      rw [List.length_take] at hle
      omega
    · next hgo =>
      rcases List.infix_cons_iff.mp hrun with hfirst | hlater
      · have hscript : e :: (takeHunk context script).1 <+: e :: script :=
          ⟨(takeHunk context script).2, congrArg (e :: ·) (takeHunk_append context script)⟩
        have hle := hq.length_le_lead (hfirst.trans hscript)
        by_cases he : e.isKeep
        · have hshort : ¬2 * context < leadLength (e :: script) := fun h => hgo ⟨he, .inr h⟩
          omega
        · rw [leadLength_cons_change he] at hle
          omega
      · exact ih run hlater hq

/-- The edits of a hunk have so many kept lines around their changes. There are fewer in front of
them only at the start, and behind them only at the end. -/
structure Framed (context : Nat) (atStart atEnd : Prop) (edits : List Edit) : Prop where
  lead : ∃ lead e rest, edits = lead ++ e :: rest ∧ Quiet lead ∧ ¬e.isKeep ∧
    lead.length ≤ context ∧ (lead.length = context ∨ atStart)
  trail : ∃ rest e trail, edits = rest ++ e :: trail ∧ Quiet trail ∧ ¬e.isKeep ∧
    trail.length ≤ context ∧ (trail.length = context ∨ atEnd)
  between : ∀ run, run <:+: edits → Quiet run → run.length ≤ 2 * context

namespace Framed

variable {context : Nat} {atStart atStart' atEnd atEnd' : Prop} {edits : List Edit}

theorem not_quiet (h : Framed context atStart atEnd edits) : ¬Quiet edits := by
  obtain ⟨lead, e, rest, rfl, -, he, -⟩ := h.lead
  intro hq
  exact he (hq e (List.mem_append_right _ List.mem_cons_self))

theorem mono (h : Framed context atStart atEnd edits) (hstart : atStart → atStart')
    (hend : atEnd → atEnd') : Framed context atStart' atEnd' edits where
  lead := by
    obtain ⟨lead, e, rest, hedits, hq, he, hle, hfull⟩ := h.lead
    exact ⟨lead, e, rest, hedits, hq, he, hle, hfull.imp_right hstart⟩
  trail := by
    obtain ⟨rest, e, trail, hedits, hq, he, hle, hfull⟩ := h.trail
    exact ⟨rest, e, trail, hedits, hq, he, hle, hfull.imp_right hend⟩
  between := h.between

end Framed

theorem Quiet.infix_of_change {run front back : List Edit} {e : Edit} (hq : Quiet run)
    (he : ¬e.isKeep) (h : run <:+: front ++ e :: back) : run <:+: front ∨ run <:+: back := by
  have hstart {r : List Edit} (hr : Quiet r) (hfirst : r <+: e :: back) : r = [] := by
    rcases List.prefix_cons_iff.mp hfirst with rfl | ⟨r, rfl, -⟩
    · rfl
    · exact absurd (hr e List.mem_cons_self) he
  rcases List.infix_append_iff.mp h with h | h | ⟨r, r', rfl, hr, hr'⟩
  · exact .inl h
  · rcases List.infix_cons_iff.mp h with h | h
    · rw [hstart hq h]
      exact .inl (List.nil_infix)
    · exact .inr h
  · have hnil := hstart (fun d hd => hq d (List.mem_append_right _ hd)) hr'
    rw [hnil, List.append_nil]
    exact .inl hr.isInfix

theorem framed_hunk (context : Nat) {quiet tail : List Edit} {e : Edit} (hq : Quiet quiet)
    (he : ¬e.isKeep) :
    Framed context (quiet.take (quiet.length - context) = []) ((takeHunk context tail).2 = [])
      (quiet.drop (quiet.length - context) ++ e :: (takeHunk context tail).1) := by
  have hlead : Quiet (quiet.drop (quiet.length - context)) := fun d hd =>
    hq d (List.mem_of_mem_drop hd)
  have hlength : (quiet.drop (quiet.length - context)).length =
      quiet.length - (quiet.length - context) := List.length_drop
  constructor
  · refine ⟨_, e, _, rfl, hlead, he, by omega, ?_⟩
    by_cases hc : context ≤ quiet.length
    · exact .inl (by omega)
    · right
      rw [Nat.sub_eq_zero_of_le (by omega), List.take_zero]
  · obtain ⟨trail, htrail, hle, hfull, hhunk⟩ := takeHunk_trail context tail
    rcases hhunk with ⟨hhunk, -⟩ | ⟨core, d, hhunk, hd⟩
    · rw [hhunk]
      exact ⟨_, e, trail, rfl, htrail, he, hle, hfull⟩
    · rw [hhunk]
      exact ⟨quiet.drop (quiet.length - context) ++ e :: core, d, trail, by simp, htrail, hd, hle,
        hfull⟩
  · intro run hrun hquiet
    rcases hquiet.infix_of_change he hrun with hrun | hrun
    · have hle := hrun.length_le
      omega
    · exact takeHunk_between context tail run hrun hquiet

end Mender.Diff
