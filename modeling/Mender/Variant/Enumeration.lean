import Mender.Variant.Assignment

/-!
Counts through all assignments of a template. The digits stand for the hotspots in pre-order, the
last one turning fastest, and each runs through the alternatives of its hotspot.
-/

namespace Mender.Variant

open Hotspot

def advance : List Nat → List Nat → Option (List Nat)
  | r :: rs, d :: ds =>
    match advance rs ds with
    | some ds' => some (d :: ds')
    | none => if d + 1 < r then some ((d + 1) :: ds.map fun _ => 0) else none
  | _, _ => none

def positions : List Nat → Nat
  | [] => 1
  | r :: rs => max r 1 * positions rs

def remaining : List Nat → List Nat → Nat
  | r :: rs, d :: ds => (r - 1 - d) * positions rs + remaining rs ds
  | _, _ => 1

theorem one_le_positions (rs : List Nat) : 1 ≤ positions rs := by
  induction rs with
  | nil => simp [positions]
  | cons r rs ih => exact Nat.mul_pos (by omega) ih

theorem one_le_remaining (rs ds : List Nat) : 1 ≤ remaining rs ds := by
  induction rs generalizing ds with
  | nil => simp [remaining]
  | cons r rs ih => cases ds with
    | nil => simp [remaining]
    | cons d ds => exact Nat.le_add_left_of_le (ih ds)

theorem remaining_zeros_le (rs ds : List Nat) :
    remaining rs (ds.map fun _ => 0) ≤ positions rs := by
  induction rs generalizing ds with
  | nil => simp [remaining, positions]
  | cons r rs ih => cases ds with
    | nil => simpa [remaining] using one_le_positions (r :: rs)
    | cons d ds =>
      have h := ih ds
      have e : max r 1 * positions rs = (r - 1) * positions rs + positions rs := by
        rw [show max r 1 = (r - 1) + 1 by omega, Nat.add_one_mul]
      simp only [List.map_cons, remaining, positions, e, Nat.sub_zero]
      omega

theorem remaining_advance {rs ds ds' : List Nat} (h : advance rs ds = some ds') :
    remaining rs ds' < remaining rs ds := by
  induction rs generalizing ds ds' with
  | nil => simp [advance] at h
  | cons r rs ih => cases ds with
    | nil => simp [advance] at h
    | cons d ds =>
      rw [advance] at h
      split at h
      · next e _ he =>
        cases h
        simpa [remaining] using ih he
      · split at h
        · next hd =>
          cases h
          have hz := remaining_zeros_le rs ds
          have h1 := one_le_remaining rs ds
          have e : (r - 1 - d) * positions rs =
              (r - 1 - (d + 1)) * positions rs + positions rs := by
            rw [show r - 1 - d = (r - 1 - (d + 1)) + 1 by omega, Nat.add_one_mul]
          simp only [remaining, e]
          omega
        · cases h

structure Enumeration where
  order : List Nat
  radices : List Nat
  /-- The digits of the next assignment; `none` when all are spent. -/
  digits : Option (List Nat)
  slots : Nat
  deriving DecidableEq, Repr, Inhabited

/-- All assignments of a template: a single one if it has no hotspot, none if a hotspot that its
forest names does not exist. -/
def enumerate (t : Template) : Enumeration :=
  let radices := t.preorder.map fun id => ((t.hotspot? id).map (·.kind.width)).getD 0
  ⟨t.preorder, radices, if 0 ∈ radices then none else some (radices.map fun _ => 0),
    t.hotspots.length⟩

namespace Enumeration

def assignment (e : Enumeration) (digits : List Nat) : Assignment :=
  (e.order.zip digits).foldl (fun a (id, d) => a.set id d) (.empty e.slots)

def next? (e : Enumeration) : Option (Assignment × Enumeration) :=
  e.digits.map fun ds => (e.assignment ds, { e with digits := advance e.radices ds })

def left (e : Enumeration) : Nat :=
  match e.digits with
  | some ds => remaining e.radices ds
  | none => 0

theorem left_lt_of_next {e e' : Enumeration} {a : Assignment} (h : e.next? = some (a, e')) :
    e'.left < e.left := by
  obtain ⟨order, radices, digits, slots⟩ := e
  cases digits with
  | none => simp [next?] at h
  | some ds =>
    simp only [next?, Option.map_some, Option.some.injEq, Prod.mk.injEq] at h
    obtain ⟨-, rfl⟩ := h
    cases hd : advance radices ds with
    | none => exact one_le_remaining radices ds
    | some ds' => simpa [left] using remaining_advance hd

end Enumeration

end Mender.Variant
