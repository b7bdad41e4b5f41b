import Mathlib.Algebra.BigOperators.Group.List.Basic
import Mathlib.Data.List.Forall2
import Mender.Variant.Enumeration

namespace Mender.Variant

def digits : List Nat → Nat → List Nat
  | [], _ => []
  | _ :: rs, j => j / rs.prod :: digits rs (j % rs.prod)

theorem length_digits (rs : List Nat) (j : Nat) : (digits rs j).length = rs.length := by
  induction rs generalizing j with
  | nil => rfl
  | cons r rs ih => simp [digits, ih]

theorem digits_zero (rs : List Nat) : digits rs 0 = rs.map fun _ => 0 := by
  induction rs with
  | nil => rfl
  | cons r rs ih => simp [digits, ih]

theorem prod_pos_of_lt {r j : Nat} {rs : List Nat} (h : j < (r :: rs).prod) : 0 < rs.prod := by
  rw [List.prod_cons] at h
  exact Nat.pos_of_ne_zero fun h0 => by simp [h0] at h

theorem digits_in_range {rs : List Nat} {j : Nat} (h : j < rs.prod) :
    List.Forall₂ (· < ·) (digits rs j) rs := by
  induction rs generalizing j with
  | nil => exact .nil
  | cons r rs ih =>
    have hp := prod_pos_of_lt h
    rw [List.prod_cons] at h
    exact .cons (Nat.div_lt_of_lt_mul (by rwa [Nat.mul_comm] at h)) (ih (Nat.mod_lt j hp))

theorem exists_digits {rs ds : List Nat} (h : List.Forall₂ (· < ·) ds rs) :
    ∃ j < rs.prod, digits rs j = ds := by
  induction h with
  | nil => exact ⟨0, by simp, rfl⟩
  | @cons d r ds rs hd _ ih =>
    obtain ⟨j, hj, hds⟩ := ih
    have hp : 0 < rs.prod := by omega
    obtain ⟨hdiv, hmod⟩ := (Nat.div_mod_unique hp).mpr ⟨rfl, hj⟩
    refine ⟨j + rs.prod * d, ?_, by rw [digits, hdiv, hmod, hds]⟩
    have hle : rs.prod * (d + 1) ≤ rs.prod * r := Nat.mul_le_mul_left _ hd
    rw [Nat.mul_add_one] at hle
    rw [List.prod_cons, Nat.mul_comm r]
    omega

theorem digits_mul_add {r d j : Nat} {rs : List Nat} (hj : j < rs.prod) :
    digits (r :: rs) (rs.prod * d + j) = d :: digits rs j := by
  obtain ⟨hdiv, hmod⟩ := (Nat.div_mod_unique (by omega)).mpr ⟨Nat.add_comm j (rs.prod * d), hj⟩
  rw [digits, hdiv, hmod]

def numerals (rs : List Nat) : List (List Nat) := (List.range rs.prod).map (digits rs)

theorem length_of_mem_numerals {rs ds : List Nat} (h : ds ∈ numerals rs) :
    ds.length = rs.length := by
  obtain ⟨j, -, rfl⟩ := List.mem_map.mp h
  exact length_digits rs j

theorem range_mul (r p : Nat) :
    List.range (p * r) = (List.range r).flatMap fun d => (List.range p).map (p * d + ·) := by
  induction r with
  | zero => rfl
  | succ r ih => simp [Nat.mul_add_one, List.range_add, List.range_succ, ih]

theorem numerals_cons (r : Nat) (rs : List Nat) :
    numerals (r :: rs) = (List.range r).flatMap fun d => (numerals rs).map (d :: ·) := by
  rw [numerals, List.prod_cons, Nat.mul_comm, range_mul, List.map_flatMap]
  apply List.flatMap_congr
  intro d _
  rw [numerals, List.map_map, List.map_map]
  apply List.map_congr_left
  intro j hj
  exact digits_mul_add (List.mem_range.mp hj)

theorem numerals_append (rs rs' : List Nat) : numerals (rs ++ rs') =
    (numerals rs).flatMap fun ds => (numerals rs').map (ds ++ ·) := by
  induction rs with
  | nil => simp [numerals, digits]
  | cons r rs ih =>
    rw [List.cons_append, numerals_cons, numerals_cons, ih, List.flatMap_assoc]
    simp only [List.map_flatMap, List.flatMap_map, List.map_map, Function.comp_def,
      List.cons_append]

theorem digits_lt_digits {rs : List Nat} {i j : Nat} (hij : i < j) (hj : j < rs.prod) :
    digits rs i < digits rs j := by
  induction rs generalizing i j with
  | nil => rw [List.prod_nil] at hj; omega
  | cons r rs ih =>
    have hp := prod_pos_of_lt hj
    rw [digits, digits, List.cons_lt_cons_iff]
    have hle : i / rs.prod ≤ j / rs.prod := Nat.div_le_div_right (Nat.le_of_lt hij)
    rcases Nat.lt_or_eq_of_le hle with hlt | heq
    · exact Or.inl hlt
    · refine Or.inr ⟨heq, ih ?_ (Nat.mod_lt j hp)⟩
      have hi := Nat.div_add_mod i rs.prod
      have hj' := Nat.div_add_mod j rs.prod
      rw [← heq] at hj'
      omega

theorem digits_injective {rs : List Nat} {i j : Nat} (hi : i < rs.prod) (hj : j < rs.prod)
    (h : digits rs i = digits rs j) : i = j := by
  rcases Nat.lt_trichotomy i j with hlt | heq | hgt
  · exact absurd (h ▸ digits_lt_digits hlt hj) (List.lt_irrefl _)
  · exact heq
  · exact absurd (h ▸ digits_lt_digits hgt hi) (List.lt_irrefl _)

theorem advance_digits {rs : List Nat} {j : Nat} (hj : j < rs.prod) :
    advance rs (digits rs j) = if j + 1 < rs.prod then some (digits rs (j + 1)) else none := by
  induction rs generalizing j with
  | nil =>
    rw [List.prod_nil] at hj ⊢
    rw [if_neg (by omega)]
    rfl
  | cons r rs ih =>
    have hp := prod_pos_of_lt hj
    have hlow := Nat.mod_lt j hp
    have hd := Nat.div_add_mod j rs.prod
    have hr : j / rs.prod < r := Nat.div_lt_of_lt_mul (by rwa [List.prod_cons, Nat.mul_comm] at hj)
    have hle : rs.prod * (j / rs.prod + 1) ≤ rs.prod * r := Nat.mul_le_mul_left _ hr
    rw [Nat.mul_add_one] at hle
    rw [List.prod_cons, Nat.mul_comm r, digits, advance, ih hlow]
    -- The lower places carry exactly when they stand at their last numeral.
    by_cases hc : j % rs.prod + 1 < rs.prod
    · have hnext : j % rs.prod + 1 + rs.prod * (j / rs.prod) = j + 1 := by omega
      obtain ⟨hdiv, hmod⟩ := (Nat.div_mod_unique hp).mpr ⟨hnext, hc⟩
      simp only [if_pos hc]
      rw [if_pos (by omega), digits, hdiv, hmod]
    · have hnext : 0 + rs.prod * (j / rs.prod + 1) = j + 1 := by
        rw [Nat.mul_add_one]
        omega
      obtain ⟨hdiv, hmod⟩ := (Nat.div_mod_unique hp).mpr ⟨hnext, hp⟩
      have hzero : (digits rs (j % rs.prod)).map (fun _ => 0) = digits rs 0 := by
        rw [digits_zero, List.map_const', List.map_const', length_digits]
      simp only [if_neg hc, hzero]
      rw [Nat.zero_add] at hnext
      by_cases hlast : j / rs.prod + 1 < r
      · have hlt : rs.prod * (j / rs.prod + 1) < rs.prod * r := Nat.mul_lt_mul_of_pos_left hlast hp
        rw [if_pos hlast, if_pos (hnext ▸ hlt), digits, hdiv, hmod]
      · have hge : rs.prod * r ≤ rs.prod * (j / rs.prod + 1) :=
          Nat.mul_le_mul_left _ (by omega)
        rw [if_neg hlast, if_neg (by omega)]

end Mender.Variant
