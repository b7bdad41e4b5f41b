import Mender.Proofs.Variant.Assignment
import Mender.Variant.Build

namespace Mender.Variant

open Syntax Hotspot

namespace Assignment

def fault? (a : Assignment) (t : Template) (id : Nat) : Option BuildError :=
  (t.hotspot? id).bind fun h =>
    match a.choice? id with
    | none => some (.incomplete id)
    | some c => if c < h.kind.width then none else some (.invalidChoice id c h.kind.width)

def firstFault? (a : Assignment) (t : Template) (next count : Nat) : Option BuildError :=
  (List.range' next count).findSome? (a.fault? t)

section Fault

variable {a : Assignment} {t : Template} {id : Nat} {h : Hotspot} {e : BuildError}

theorem isSome_alternative?_iff {k : Kind} :
    (a.alternative? id k).isSome = true ↔ ∃ c, a.choice? id = some c ∧ c < k.width := by
  rw [alternative?]
  cases a.choice? id with
  | none => simp
  | some c => simp [Kind.width]

theorem fault?_eq_none_iff (hid : t.hotspot? id = some h) :
    a.fault? t id = none ↔ ∃ c, a.choice? id = some c ∧ c < h.kind.width := by
  rw [fault?, hid, Option.bind_some]
  cases a.choice? id with
  | none => simp
  | some c => simp

theorem fault?_eq_some (hid : t.hotspot? id = some h) (he : a.fault? t id = some e) :
    a.choice? id = none ∧ e = .incomplete id ∨
      ∃ c, a.choice? id = some c ∧ h.kind.width ≤ c ∧ e = .invalidChoice id c h.kind.width := by
  rw [fault?, hid, Option.bind_some] at he
  cases hc : a.choice? id with
  | none =>
    rw [hc] at he
    exact Or.inl ⟨rfl, (Option.some.inj he).symm⟩
  | some c =>
    rw [hc] at he
    dsimp only at he
    split at he
    · cases he
    · next hlt => exact Or.inr ⟨c, rfl, Nat.le_of_not_lt hlt, (Option.some.inj he).symm⟩

theorem firstFault?_append (a : Assignment) (t : Template) (next m n : Nat) :
    a.firstFault? t next (m + n) =
      (a.firstFault? t next m).or (a.firstFault? t (next + m) n) := by
  rw [firstFault?, ← List.range'_append_1, List.findSome?_append]
  rfl

theorem firstFault?_one (a : Assignment) (t : Template) (id : Nat) :
    a.firstFault? t id 1 = a.fault? t id := by
  rw [firstFault?, List.range'_one, List.findSome?_singleton]

theorem firstFault?_eq_none_iff {count : Nat} :
    a.firstFault? t 0 count = none ↔ ∀ id < count, a.fault? t id = none := by
  rw [firstFault?, List.findSome?_eq_none_iff]
  simp only [List.mem_range'_1, Nat.zero_le, Nat.zero_add, true_and]

theorem firstFault?_eq_none_of {next count : Nat} (h : ∀ id < next + count, a.fault? t id = none) :
    a.firstFault? t next count = none := by
  rw [firstFault?, List.findSome?_eq_none_iff]
  intro id hid
  rw [List.mem_range'_1] at hid
  exact h id hid.2

theorem exists_of_firstFault? {count : Nat} (he : a.firstFault? t 0 count = some e) :
    ∃ id < count, a.fault? t id = some e ∧ ∀ j < id, a.fault? t j = none := by
  induction count with
  | zero => cases he
  | succ count ih =>
    rw [firstFault?_append, firstFault?_one, Nat.zero_add] at he
    cases hbefore : a.firstFault? t 0 count with
    | some e' =>
      rw [hbefore, Option.some_or] at he
      obtain ⟨id, hlt, hid⟩ := ih (hbefore.trans he)
      exact ⟨id, by omega, hid⟩
    | none =>
      rw [hbefore, Option.none_or] at he
      exact ⟨count, by omega, he, firstFault?_eq_none_iff.mp hbefore⟩

end Fault

theorem fits_iff_no_fault {a : Assignment} {T : Node} : a.Fits (detect T) ↔
    a.firstFault? (detect T) 0 (detect T).hotspots.length = none := by
  rw [firstFault?_eq_none_iff, fits_detect]
  constructor
  · intro ha id hlt
    have hid : (detect T).hotspot? id = some _ := List.getElem?_eq_getElem hlt
    exact (fault?_eq_none_iff hid).mpr (isSome_alternative?_iff.mp (ha id _ hid))
  · intro ha id h hid
    have hlt : id < (detect T).hotspots.length := (List.getElem?_eq_some_iff.mp hid).1
    exact isSome_alternative?_iff.mpr ((fault?_eq_none_iff hid).mp (ha id hlt))

end Assignment

end Mender.Variant
