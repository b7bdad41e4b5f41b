import Mathlib.Tactic.Common
import Mender.Diff.Edit

namespace Mender.Diff

namespace Edit

variable (l : Line) (script other : List Edit)

@[simp] theorem before_nil : before [] = [] := rfl
@[simp] theorem before_keep : before (keep l :: script) = l :: before script := rfl
@[simp] theorem before_delete : before (delete l :: script) = l :: before script := rfl
@[simp] theorem before_insert : before (insert l :: script) = before script := rfl
@[simp] theorem before_append : before (script ++ other) = before script ++ before other :=
  List.filterMap_append

@[simp] theorem after_nil : after [] = [] := rfl
@[simp] theorem after_keep : after (keep l :: script) = l :: after script := rfl
@[simp] theorem after_delete : after (delete l :: script) = after script := rfl
@[simp] theorem after_insert : after (insert l :: script) = l :: after script := rfl
@[simp] theorem after_append : after (script ++ other) = after script ++ after other :=
  List.filterMap_append

theorem line_mem {e : Edit} {script : List Edit} (h : e ∈ script) :
    e.line ∈ before script ∨ e.line ∈ after script := by
  cases e with
  | keep l => exact .inl (List.mem_filterMap.mpr ⟨_, h, rfl⟩)
  | delete l => exact .inl (List.mem_filterMap.mpr ⟨_, h, rfl⟩)
  | insert l => exact .inr (List.mem_filterMap.mpr ⟨_, h, rfl⟩)

end Edit

def Quiet (script : List Edit) : Prop := ∀ e ∈ script, e.isKeep

instance (script : List Edit) : Decidable (Quiet script) :=
  inferInstanceAs (Decidable (∀ e ∈ script, _))

theorem Quiet.eq_map {script : List Edit} (h : Quiet script) :
    script = (Edit.before script).map .keep := by
  induction script with
  | nil => rfl
  | cons e script ih =>
    obtain ⟨he, hs⟩ := List.forall_mem_cons.mp h
    cases e with
    | keep l => rw [Edit.before_keep, List.map_cons, ← ih hs]
    | delete l => cases he
    | insert l => cases he

theorem Quiet.after_eq {script : List Edit} (h : Quiet script) :
    Edit.after script = Edit.before script := by
  have hmap (ls : List Line) : Edit.after (ls.map .keep) = ls := by
    induction ls with
    | nil => rfl
    | cons l ls ih => rw [List.map_cons, Edit.after_keep, ih]
  calc Edit.after script = Edit.after ((Edit.before script).map .keep) := by rw [← h.eq_map]
    _ = Edit.before script := hmap _

/-- What a line diff promises of its scripts. -/
structure LineDiff.Lawful (diff : LineDiff) : Prop where
  before : ∀ old new, Edit.before (diff old new) = old
  after : ∀ old new, Edit.after (diff old new) = new
  same : ∀ lines, Quiet (diff lines lines)

end Mender.Diff
