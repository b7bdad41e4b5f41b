import Mender.Diff.Script
import Mender.Proofs.Diff.Edit

namespace Mender.Diff

def best (old new : List Line) : Best := (rows old new).headD default

theorem rows_cons (old : List Line) (l : Line) (ls : List Line) :
    rows old (l :: ls) = best old (l :: ls) :: rows old ls := by
  induction old with
  | nil => rfl
  | cons a old ih =>
    have h : rows (a :: old) (l :: ls) = extend a (l :: ls) (best old (l :: ls) :: rows old ls) := by
      rw [rows, ih]
    rw [best, h]
    rfl

theorem best_cons_cons (a : Line) (old : List Line) (l : Line) (ls : List Line) :
    best (a :: old) (l :: ls) =
      if a = l then (best old ls).keep a
      else ((best old (l :: ls)).delete a).pick ((best (a :: old) ls).insert l) := by
  rw [best, rows, rows_cons]
  rfl

theorem best_induction {P : List Line → List Line → Best → Prop} (hnil : P [] [] ⟨0, []⟩)
    (hkeep : ∀ l {old new b}, P old new b → P (l :: old) (l :: new) (b.keep l))
    (hdelete : ∀ l {old new b}, P old new b → P (l :: old) new (b.delete l))
    (hinsert : ∀ l {old new b}, P old new b → P old (l :: new) (b.insert l))
    (old new : List Line) : P old new (best old new) := by
  induction old generalizing new with
  | nil =>
    induction new with
    | nil => exact hnil
    | cons l ls ih => exact hinsert l ih
  | cons a old ihOld =>
    induction new with
    | nil => exact hdelete a (ihOld [])
    | cons l ls ihNew =>
      rw [best_cons_cons]
      by_cases h : a = l
      · subst h
        rw [if_pos rfl]
        exact hkeep a (ihOld ls)
      · rw [if_neg h, Best.pick]
        split
        · exact hinsert l ihNew
        · exact hdelete a (ihOld (l :: ls))

theorem before_script (old new : List Line) : Edit.before (script old new) = old := by
  apply best_induction (P := fun old _ b => Edit.before b.script = old) rfl
  · intro l old new b h
    exact congrArg (l :: ·) h
  · intro l old new b h
    exact congrArg (l :: ·) h
  · intro l old new b h
    exact h

theorem after_script (old new : List Line) : Edit.after (script old new) = new := by
  apply best_induction (P := fun _ new b => Edit.after b.script = new) rfl
  · intro l old new b h
    exact congrArg (l :: ·) h
  · intro l old new b h
    exact h
  · intro l old new b h
    exact congrArg (l :: ·) h

theorem quiet_script_self (ls : List Line) : Quiet (script ls ls) := by
  induction ls with
  | nil => exact List.forall_mem_nil _
  | cons l ls ih =>
    have h : script (l :: ls) (l :: ls) = .keep l :: script ls ls := by
      change (best _ _).script = _
      rw [best_cons_cons, if_pos rfl]
      rfl
    rw [h]
    exact List.forall_mem_cons.mpr ⟨rfl, ih⟩

theorem lawful_script : LineDiff.Lawful script := ⟨before_script, after_script, quiet_script_self⟩

end Mender.Diff
