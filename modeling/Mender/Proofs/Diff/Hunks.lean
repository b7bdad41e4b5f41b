import Mender.Proofs.Diff.Context

namespace Mender.Diff

/-- Hunks laid out over a script that has the given numbers of lines in front of it. -/
inductive Laid (context : Nat) : Nat → Nat → List Edit → List Hunk → Prop
  | quiet {old new : Nat} {script : List Edit} : Quiet script → Laid context old new script []
  | hunk {old new : Nat} {gap edits rest : List Edit} {hs : List Hunk} :
      Quiet gap → Framed context (gap = []) (rest = []) edits →
      (∀ k ∈ hs, old + gap.length + (Edit.before edits).length < k.oldStart ∧
        new + gap.length + (Edit.after edits).length < k.newStart) →
      Laid context (old + gap.length + (Edit.before edits).length)
        (new + gap.length + (Edit.after edits).length) rest hs →
      Laid context old new (gap ++ edits ++ rest)
        (⟨old + gap.length, new + gap.length, edits⟩ :: hs)

theorem split_at_change {script tail : List Edit} {e : Edit}
    (h : script.dropWhile (·.isKeep) = e :: tail) :
    Quiet (script.takeWhile (·.isKeep)) ∧ ¬e.isKeep ∧
      script = script.takeWhile (·.isKeep) ++ e :: tail := by
  refine ⟨fun _ he => List.mem_takeWhile_imp he, ?_, ?_⟩
  · have hhead := List.head?_dropWhile_not (fun e : Edit => e.isKeep) script
    simpa [h] using hhead
  · rw [← h]
    exact List.takeWhile_append_dropWhile.symm

theorem hunks_starts (context old new : Nat) (script : List Edit) :
    ∀ k ∈ hunks context old new script, old ≤ k.oldStart ∧ new ≤ k.newStart := by
  fun_induction hunks context old new script with
  | case1 => exact List.forall_mem_nil _
  | case2 old new script e tail _ quiet skipped edits ih =>
    intro k hk
    rcases List.mem_cons.mp hk with rfl | hk
    · exact ⟨Nat.le_add_right _ _, Nat.le_add_right _ _⟩
    · have h := ih k hk
      omega

theorem hunks_starts_far {context : Nat} {script : List Edit} (old new : Nat)
    (hfar : Quiet script ∨ context < leadLength script) :
    ∀ k ∈ hunks context old new script, old < k.oldStart ∧ new < k.newStart := by
  intro k hk
  rw [hunks] at hk
  split at hk
  · cases hk
  · next e tail h =>
    obtain ⟨-, hchange, hsplit⟩ := split_at_change h
    have hskipped : 0 < (script.takeWhile (·.isKeep)).length - context := by
      rcases hfar with hq | hlong
      · rw [hsplit] at hq
        exact absurd (hq e (List.mem_append_right _ List.mem_cons_self)) hchange
      · exact Nat.sub_pos_of_lt hlong
    rcases List.mem_cons.mp hk with rfl | hk
    · exact ⟨Nat.lt_add_of_pos_right hskipped, Nat.lt_add_of_pos_right hskipped⟩
    · have hlater := hunks_starts _ _ _ _ k hk
      omega

theorem hunks_laid (context old new : Nat) (script : List Edit) :
    Laid context old new script (hunks context old new script) := by
  fun_induction hunks context old new script with
  | case1 old new script h => exact .quiet (List.dropWhile_eq_nil_iff.mp h)
  | case2 old new script e tail h quiet skipped edits ih =>
    obtain ⟨hquiet, hchange, hsplit⟩ := split_at_change h
    have hlength : (quiet.take skipped).length = skipped :=
      List.length_take_of_le (Nat.sub_le _ _)
    have hscript : script = quiet.take skipped ++ edits ++ (takeHunk context tail).2 := by
      calc script = quiet.take skipped ++ quiet.drop skipped ++
            e :: ((takeHunk context tail).1 ++ (takeHunk context tail).2) := by
            rw [List.take_append_drop, takeHunk_append]
            exact hsplit
        _ = _ := by simp only [edits, List.append_assoc, List.cons_append]
    have hgap : Quiet (quiet.take skipped) := fun _ he => hquiet _ (List.mem_of_mem_take he)
    have hstarts := hunks_starts_far (old + skipped + (Edit.before edits).length)
      (new + skipped + (Edit.after edits).length) (takeHunk_far context tail)
    rw [← hlength] at ih hstarts
    have hlaid := Laid.hunk hgap (framed_hunk context hquiet hchange) hstarts ih
    rw [hlength, ← hscript] at hlaid
    exact hlaid

theorem Laid.eq_nil_iff {context old new : Nat} {script : List Edit} {hs : List Hunk}
    (h : Laid context old new script hs) : hs = [] ↔ Quiet script := by
  cases h with
  | quiet hq => exact iff_of_true rfl hq
  | hunk _ hedits _ _ =>
    apply iff_of_false (List.cons_ne_nil _ _)
    intro hall
    apply hedits.not_quiet
    intro e he
    exact hall e (List.mem_append_left _ (List.mem_append_right _ he))

namespace Hunk

def oldEnd (h : Hunk) : Nat := h.oldStart + (Edit.before h.edits).length

def newEnd (h : Hunk) : Nat := h.newStart + (Edit.after h.edits).length

end Hunk

theorem Laid.ordered {context old new : Nat} {script : List Edit} {hs : List Hunk}
    (h : Laid context old new script hs) :
    hs.Pairwise fun a b => a.oldEnd < b.oldStart ∧ a.newEnd < b.newStart := by
  induction h with
  | quiet _ => exact List.Pairwise.nil
  | hunk _ _ hstarts _ ih => exact List.pairwise_cons.mpr ⟨hstarts, ih⟩

theorem Quiet.length_before {script : List Edit} (h : Quiet script) :
    (Edit.before script).length = script.length := by
  conv_rhs => rw [h.eq_map, List.length_map]

theorem Quiet.length_after {script : List Edit} (h : Quiet script) :
    (Edit.after script).length = script.length := by
  rw [h.after_eq, h.length_before]

theorem Laid.split {context old new : Nat} {script : List Edit} {hs : List Hunk}
    (h : Laid context old new script hs) : ∀ k ∈ hs, ∃ front back,
      script = front ++ k.edits ++ back ∧ Framed context (front = []) (back = []) k.edits ∧
      k.oldStart = old + (Edit.before front).length ∧
      k.newStart = new + (Edit.after front).length := by
  induction h with
  | quiet _ => simp
  | @hunk old new gap edits rest hs hgap hframed hstarts _ ih =>
    intro k hk
    rcases List.mem_cons.mp hk with rfl | hk
    · exact ⟨gap, rest, rfl, hframed, by rw [hgap.length_before], by rw [hgap.length_after]⟩
    · obtain ⟨front, back, hrest, hframed, hold, hnew⟩ := ih k hk
      -- Kept lines part `k` from the first hunk, so it has its context in front even there.
      have hfront : front ≠ [] := by
        rintro rfl
        have hstart := (hstarts k hk).1
        rw [hold] at hstart
        exact absurd hstart (Nat.lt_irrefl _)
      refine ⟨gap ++ edits ++ front, back, ?_, hframed.mono (fun h => absurd h hfront) id, ?_, ?_⟩
      · rw [hrest]
        simp only [List.append_assoc]
      · simp only [Edit.before_append, List.length_append, hgap.length_before, hold]
        omega
      · simp only [Edit.after_append, List.length_append, hgap.length_after, hnew]
        omega

theorem Laid.mem {context old new : Nat} {script : List Edit} {hs : List Hunk}
    (h : Laid context old new script hs) : ∀ k ∈ hs, ∀ e ∈ k.edits, e ∈ script := by
  intro k hk e he
  obtain ⟨front, back, hscript, -⟩ := h.split k hk
  rw [hscript]
  exact List.mem_append_left _ (List.mem_append_right _ he)

end Mender.Diff
