import Mender.Search.Candidates
import Mender.Proofs.Variant.Enumeration

namespace Mender.Search

open Syntax Hotspot Variant

namespace Candidates

theorem toList_of_none {c : Candidates} (h : c.next? = none) : c.toList = [] := by
  rw [toList]
  split
  · rfl
  · next hs => rw [h] at hs; cases hs

theorem toList_of_some {c c' : Candidates} {a : Assignment} (h : c.next? = some (a, c')) :
    c.toList = a :: c'.toList := by
  rw [toList]
  split
  · next hn => rw [h] at hn; cases hn
  · next hs => rw [h] at hs; cases hs; rfl

theorem take_eq (n : Nat) (c : Candidates) :
    (c.take n).1 = c.toList.take n ∧ (c.take n).2.toList = c.toList.drop n := by
  induction n generalizing c with
  | zero => exact ⟨rfl, rfl⟩
  | succ n ih =>
    rw [take]
    cases h : c.next? with
    | none =>
      rw [toList_of_none h]
      exact ⟨rfl, rfl⟩
    | some p =>
      obtain ⟨a, c'⟩ := p
      obtain ⟨hl, hr⟩ := ih c'
      rw [toList_of_some h]
      exact ⟨congrArg (a :: ·) hl, hr⟩

theorem toList_take (n : Nat) (c : Candidates) :
    c.toList = (c.take n).1 ++ (c.take n).2.toList := by
  obtain ⟨hl, hr⟩ := take_eq n c
  rw [hl, hr, List.take_append_drop]

theorem toList_of_take_nil {n : Nat} {c : Candidates} (hn : 0 < n) (h : (c.take n).1 = []) :
    c.toList = [] := by
  rw [(take_eq n c).1, List.take_eq_nil_iff] at h
  exact h.resolve_left (by omega)

theorem toList_seek (e : Enumeration) (i : Nat) :
    (counted (e.seek i)).toList = (List.range' i (e.radices.prod - i)).map fun j =>
      e.assignment (digits e.radices j) := by
  generalize hm : e.radices.prod - i = m
  induction m generalizing i with
  | zero =>
    apply toList_of_none
    rw [next?, Enumeration.next?_seek, if_neg (by omega)]
    rfl
  | succ m ih =>
    have hnext : (counted (e.seek i)).next? =
        some (e.assignment (digits e.radices i), counted (e.seek (i + 1))) := by
      rw [next?, Enumeration.next?_seek, if_pos (by omega)]
      rfl
    rw [toList_of_some hnext, ih (i + 1) (by omega)]
    rfl

theorem toList_enumerate (T : Node) :
    (counted (enumerate (detect T))).toList =
      (List.range (spaceProduct (detect T))).map (variantAt T) := by
  rw [enumerate_eq_seek, toList_seek, List.range_eq_range', ← prod_map_width]
  rfl

end Candidates

end Mender.Search
