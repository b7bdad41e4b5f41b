import Mender.Variant.Enumeration

namespace Mender.Search

open Variant

inductive Candidates where
  | listed (assignments : List Assignment)
  | counted (enumeration : Enumeration)
  deriving Repr, Inhabited

namespace Candidates

def next? : Candidates → Option (Assignment × Candidates)
  | listed [] => none
  | listed (a :: as) => some (a, listed as)
  | counted e => e.next?.map fun (a, e') => (a, counted e')

def left : Candidates → Nat
  | listed as => as.length
  | counted e => e.left

theorem left_lt_of_next {c c' : Candidates} {a : Assignment} (h : c.next? = some (a, c')) :
    c'.left < c.left := by
  cases c with
  | listed as => cases as with
    | nil => simp [next?] at h
    | cons b bs =>
      simp only [next?, Option.some.injEq, Prod.mk.injEq] at h
      obtain ⟨-, rfl⟩ := h
      simp [left]
  | counted e =>
    simp only [next?, Option.map_eq_some_iff, Prod.mk.injEq] at h
    obtain ⟨⟨b, e'⟩, he, rfl, rfl⟩ := h
    exact e.left_lt_of_next he

def take : Nat → Candidates → List Assignment × Candidates
  | 0, c => ([], c)
  | n + 1, c =>
    match c.next? with
    | none => ([], c)
    | some (a, c') => let (as, c'') := take n c'; (a :: as, c'')

theorem left_take_le (n : Nat) (c : Candidates) : (c.take n).2.left ≤ c.left := by
  induction n generalizing c with
  | zero => simp [take]
  | succ n ih =>
    rw [take]
    split
    · exact Nat.le_refl _
    · next a c' h => exact Nat.le_trans (ih c') (Nat.le_of_lt (left_lt_of_next h))

theorem left_lt_of_take {n : Nat} {c c' : Candidates} {a : Assignment} {as : List Assignment}
    (h : c.take n = (a :: as, c')) : c'.left < c.left := by
  cases n with
  | zero => simp [take] at h
  | succ n =>
    rw [take] at h
    split at h
    · simp at h
    · next b d hd =>
      simp only [Prod.mk.injEq, List.cons.injEq] at h
      obtain ⟨-, rfl⟩ := h
      exact Nat.lt_of_le_of_lt (left_take_le n d) (left_lt_of_next hd)

def toList (c : Candidates) : List Assignment :=
  match _h : c.next? with
  | none => []
  | some (a, c') => a :: c'.toList
termination_by c.left
decreasing_by exact left_lt_of_next _h

end Candidates

end Mender.Search
