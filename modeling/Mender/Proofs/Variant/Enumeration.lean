import Mathlib.Data.List.Nodup
import Mender.Proofs.Variant.Assignment
import Mender.Proofs.Variant.Odometer

namespace Mender.Variant

open Syntax Hotspot

namespace Enumeration

def call (e : Enumeration) : Option Assignment × Enumeration :=
  match e.next? with
  | none => (none, e)
  | some (a, e') => (some a, e')

def answer (e : Enumeration) : Nat → Option Assignment
  | 0 => e.call.1
  | j + 1 => e.call.2.answer j

def seek (e : Enumeration) (j : Nat) : Enumeration :=
  { e with digits := if j < e.radices.prod then some (Variant.digits e.radices j) else none }

theorem next?_seek (e : Enumeration) (j : Nat) :
    (e.seek j).next? = if j < e.radices.prod then
      some (e.assignment (Variant.digits e.radices j), e.seek (j + 1)) else none := by
  by_cases hj : j < e.radices.prod
  · simp [next?, seek, hj, advance_digits hj, assignment]
  · simp [next?, seek, hj]

theorem seek_of_le (e : Enumeration) {i j : Nat} (hi : e.radices.prod ≤ i)
    (hj : e.radices.prod ≤ j) : e.seek i = e.seek j := by
  rw [seek, seek, if_neg (by omega), if_neg (by omega)]

theorem call_seek (e : Enumeration) (j : Nat) :
    (e.seek j).call = (if j < e.radices.prod then
      some (e.assignment (Variant.digits e.radices j)) else none, e.seek (j + 1)) := by
  rw [call, next?_seek]
  by_cases hj : j < e.radices.prod
  · simp only [if_pos hj]
  · have hs : e.seek j = e.seek (j + 1) := e.seek_of_le (by omega) (by omega)
    simp only [if_neg hj, ← hs]

theorem answer_seek (e : Enumeration) (i j : Nat) :
    (e.seek i).answer j = if i + j < e.radices.prod then
      some (e.assignment (Variant.digits e.radices (i + j))) else none := by
  induction j generalizing i with
  | zero => rw [answer, call_seek]; rfl
  | succ j ih => rw [answer, call_seek, ih, Nat.add_right_comm, Nat.add_assoc]

end Enumeration

namespace Assignment

def setAll (a : Assignment) (choices : List (Nat × Nat)) : Assignment :=
  choices.foldl (fun a (id, d) => a.set id d) a

theorem length_setAll {a : Assignment} {choices : List (Nat × Nat)}
    (h : ∀ p ∈ choices, p.1 < a.choices.length) :
    (a.setAll choices).choices.length = a.choices.length := by
  induction choices generalizing a with
  | nil => rfl
  | cons p choices ih =>
    obtain ⟨id, d⟩ := p
    have hid : id < a.choices.length := h (id, d) (by simp)
    have hl : (a.set id d).choices.length = a.choices.length := by
      rw [length_set]
      omega
    change ((a.set id d).setAll choices).choices.length = _
    rw [ih (fun q hq => by rw [hl]; exact h q (List.mem_cons_of_mem _ hq)), hl]

theorem choice?_setAll_of_notMem {a : Assignment} {choices : List (Nat × Nat)} {id : Nat}
    (h : id ∉ choices.map (·.1)) : (a.setAll choices).choice? id = a.choice? id := by
  induction choices generalizing a with
  | nil => rfl
  | cons p choices ih =>
    rw [List.map_cons, List.mem_cons, not_or] at h
    change ((a.set p.1 p.2).setAll choices).choice? id = _
    rw [ih h.2, choice?_set, if_neg h.1]

theorem map_choice?_setAll {a : Assignment} {choices : List (Nat × Nat)}
    (h : (choices.map (·.1)).Nodup) :
    (choices.map (·.1)).map (a.setAll choices).choice? = (choices.map (·.2)).map some := by
  induction choices generalizing a with
  | nil => rfl
  | cons p choices ih =>
    rw [List.map_cons, List.nodup_cons] at h
    have hhead : ((a.set p.1 p.2).setAll choices).choice? p.1 = some p.2 := by
      rw [choice?_setAll_of_notMem h.1, choice?_set, if_pos rfl]
    have htail := ih (a := a.set p.1 p.2) h.2
    simp only [List.map_cons]
    exact List.cons_eq_cons.mpr ⟨hhead, htail⟩

end Assignment

theorem Enumeration.map_choice?_assignment {e : Enumeration} {ds : List Nat}
    (hn : e.order.Nodup) (hl : ds.length = e.order.length) :
    e.order.map (e.assignment ds).choice? = ds.map some := by
  have h : ((e.order.zip ds).map (·.1)).map (e.assignment ds).choice? =
      ((e.order.zip ds).map (·.2)).map some :=
    Assignment.map_choice?_setAll (by rwa [List.map_fst_zip (by omega)])
  rwa [List.map_fst_zip (by omega), List.map_snd_zip (by omega)] at h

theorem Enumeration.length_assignment {e : Enumeration} (hb : ∀ id ∈ e.order, id < e.slots)
    (ds : List Nat) : (e.assignment ds).choices.length = e.slots := by
  have hs : (Assignment.empty e.slots).choices.length = e.slots := List.length_replicate
  change ((Assignment.empty e.slots).setAll (e.order.zip ds)).choices.length = _
  rw [Assignment.length_setAll, hs]
  intro p hp
  rw [hs]
  exact hb p.1 (List.of_mem_zip hp).1

def width (t : Template) (id : Nat) : Nat := ((t.hotspot? id).map (·.kind.width)).getD 0

def spaceProduct (t : Template) : Nat := (t.hotspots.map (·.kind.width)).prod

theorem chosen_iff {order : List Nat} {f : Nat → Option Nat} {w : Nat → Nat} :
    (∀ id ∈ order, ∃ d, f id = some d ∧ d < w id) ↔
      ∃ ds, order.map f = ds.map some ∧ List.Forall₂ (· < ·) ds (order.map w) := by
  induction order with
  | nil => simp
  | cons id order ih =>
    rw [List.forall_mem_cons, ih]
    constructor
    · rintro ⟨⟨d, hd, hw⟩, ds, hds, hr⟩
      exact ⟨d :: ds, by simp [hd, hds], .cons hw hr⟩
    · rintro ⟨ds, hds, hr⟩
      cases hr with
      | cons hw hr =>
        rw [List.map_cons, List.map_cons, List.cons_eq_cons] at hds
        exact ⟨⟨_, hds.1, hw⟩, _, hds.2, hr⟩

theorem fits_iff_chosen {T : Node} {a : Assignment} :
    a.Fits (detect T) ↔ ∀ id ∈ (detect T).preorder, ∃ d, a.choice? id = some d ∧
      d < width (detect T) id := by
  rw [Assignment.fits_detect]
  constructor
  · intro ha id hid
    rw [Template.mem_preorder_detect] at hid
    obtain ⟨alt, halt⟩ := Option.isSome_iff_exists.mp (ha id _ (List.getElem?_eq_getElem hid))
    obtain ⟨d, hd, hg⟩ := Option.bind_eq_some_iff.mp halt
    refine ⟨d, hd, ?_⟩
    rw [width, Template.hotspot?, List.getElem?_eq_getElem hid]
    exact (List.getElem?_eq_some_iff.mp hg).1
  · intro ha id h hid
    have hl : id < (detect T).hotspots.length := (List.getElem?_eq_some_iff.mp hid).1
    obtain ⟨d, hd, hw⟩ := ha id (Template.mem_preorder_detect.mpr hl)
    rw [width, hid] at hw
    rw [Assignment.alternative?, hd, Option.bind_some,
      List.getElem?_eq_getElem (show d < h.kind.alternatives.length from hw)]
    rfl

section Detect

variable (T : Node)

theorem map_hotspot?_perm :
    ((detect T).preorder.map (detect T).hotspot?).Perm ((detect T).hotspots.map some) := by
  have h := (Template.preorder_detect_perm T).map (detect T).hotspot?
  have hrange : (List.range (detect T).hotspots.length).map (detect T).hotspot? =
      (detect T).hotspots.map some := by
    apply List.ext_getElem
    · simp
    · intro i hi _
      simp only [List.length_map, List.length_range] at hi
      simp [Template.hotspot?, hi]
  rwa [hrange] at h

theorem map_width_perm : ((detect T).preorder.map (width (detect T))).Perm
    ((detect T).hotspots.map (·.kind.width)) := by
  have h := (map_hotspot?_perm T).map fun o => (o.map (·.kind.width)).getD 0
  rw [List.map_map, List.map_map] at h
  exact h

theorem prod_map_width :
    ((detect T).preorder.map (width (detect T))).prod = spaceProduct (detect T) :=
  (map_width_perm T).prod_eq

theorem two_le_of_mem_widths {w : Nat} (hw : w ∈ (detect T).preorder.map (width (detect T))) :
    2 ≤ w := by
  rw [(map_width_perm T).mem_iff, List.mem_map] at hw
  obtain ⟨h, -, rfl⟩ := hw
  exact h.kind.two_le_width

theorem enumerate_eq_seek : enumerate (detect T) = (enumerate (detect T)).seek 0 := by
  have hr : (enumerate (detect T)).radices = (detect T).preorder.map (width (detect T)) := rfl
  have h0 : 0 ∉ (enumerate (detect T)).radices := by
    intro h
    have := two_le_of_mem_widths T (hr ▸ h)
    omega
  have hp : 0 < (enumerate (detect T)).radices.prod :=
    List.prod_pos_iff_forall_pos_nat.mpr fun w hw => Nat.pos_of_ne_zero fun hz => h0 (hz ▸ hw)
  have hd : (enumerate (detect T)).digits =
      some (Variant.digits (enumerate (detect T)).radices 0) := by
    rw [digits_zero]
    exact if_neg h0
  rw [Enumeration.seek, if_pos hp, ← hd]

def variantAt (j : Nat) : Assignment :=
  (enumerate (detect T)).assignment
    (Variant.digits ((detect T).preorder.map (width (detect T))) j)

theorem answer_enumerate (j : Nat) :
    (enumerate (detect T)).answer j =
      if j < spaceProduct (detect T) then some (variantAt T j) else none := by
  rw [enumerate_eq_seek, Enumeration.answer_seek, Nat.zero_add, ← prod_map_width]
  rfl

theorem answer_eq_some_iff {T : Node} {j : Nat} {a : Assignment} :
    (enumerate (detect T)).answer j = some a ↔
      j < spaceProduct (detect T) ∧ variantAt T j = a := by
  rw [answer_enumerate]
  by_cases hj : j < spaceProduct (detect T) <;> simp [hj]

theorem length_variantAt (j : Nat) :
    (variantAt T j).choices.length = (detect T).hotspots.length :=
  Enumeration.length_assignment (fun _ hid => Template.mem_preorder_detect.mp hid) _

theorem map_choice?_variantAt (j : Nat) :
    (detect T).preorder.map (variantAt T j).choice? =
      (Variant.digits ((detect T).preorder.map (width (detect T))) j).map some :=
  Enumeration.map_choice?_assignment (Template.nodup_preorder_detect T)
    ((length_digits _ j).trans (List.length_map _))

theorem filterMap_choice?_variantAt (j : Nat) :
    (detect T).preorder.filterMap (variantAt T j).choice? =
      Variant.digits ((detect T).preorder.map (width (detect T))) j := by
  have h := congrArg (List.filterMap id) (map_choice?_variantAt T j)
  simpa [List.filterMap_map] using h

theorem fits_iff_digits {T : Node} {a : Assignment} :
    a.Fits (detect T) ↔ ∃ j < spaceProduct (detect T), (detect T).preorder.map a.choice? =
      (Variant.digits ((detect T).preorder.map (width (detect T))) j).map some := by
  rw [fits_iff_chosen, chosen_iff, ← prod_map_width]
  constructor
  · rintro ⟨ds, hds, hr⟩
    obtain ⟨j, hj, rfl⟩ := exists_digits hr
    exact ⟨j, hj, hds⟩
  · rintro ⟨j, hj, hds⟩
    exact ⟨_, hds, digits_in_range hj⟩

theorem fits_variantAt {T : Node} {j : Nat} (hj : j < spaceProduct (detect T)) :
    (variantAt T j).Fits (detect T) :=
  fits_iff_digits.mpr ⟨j, hj, map_choice?_variantAt T j⟩

theorem exists_variantAt {T : Node} {a : Assignment} (ha : a.Fits (detect T)) :
    ∃ j < spaceProduct (detect T), ∀ id < (detect T).hotspots.length,
      (variantAt T j).choice? id = a.choice? id := by
  obtain ⟨j, hj, hd⟩ := fits_iff_digits.mp ha
  rw [← map_choice?_variantAt, List.map_inj_left] at hd
  exact ⟨j, hj, fun id hid => (hd id (Template.mem_preorder_detect.mpr hid)).symm⟩

theorem variantAt_injective {T : Node} {i j : Nat} (hi : i < spaceProduct (detect T))
    (hj : j < spaceProduct (detect T)) (h : variantAt T i = variantAt T j) : i = j := by
  have hd := congrArg (fun a => (detect T).preorder.filterMap a.choice?) h
  simp only [filterMap_choice?_variantAt] at hd
  rw [← prod_map_width] at hi hj
  exact digits_injective hi hj hd

theorem variantAt_increasing {T : Node} {i j : Nat} (hij : i < j)
    (hj : j < spaceProduct (detect T)) :
    (detect T).preorder.filterMap (variantAt T i).choice? <
      (detect T).preorder.filterMap (variantAt T j).choice? := by
  rw [filterMap_choice?_variantAt, filterMap_choice?_variantAt]
  rw [← prod_map_width] at hj
  exact digits_lt_digits hij hj

theorem foldl_min_width (limit : Nat) (hs : List Hotspot) (n : Nat) :
    hs.foldl (fun n h => min (n * h.kind.width) limit) (min n limit) =
      min (n * (hs.map (·.kind.width)).prod) limit := by
  induction hs generalizing n with
  | nil => simp
  | cons h hs ih =>
    have hw := h.kind.two_le_width
    have hmin : min (min n limit * h.kind.width) limit = min (n * h.kind.width) limit := by
      rcases Nat.le_total n limit with hn | hn
      · rw [Nat.min_eq_left hn]
      · have h1 : limit ≤ limit * h.kind.width := Nat.le_mul_of_pos_right _ (by omega)
        have h2 : limit * h.kind.width ≤ n * h.kind.width := Nat.mul_le_mul_right _ hn
        rw [Nat.min_eq_right hn]
        omega
    rw [List.foldl_cons, hmin, ih, List.map_cons, List.prod_cons, Nat.mul_assoc]

theorem spaceSize_detect :
    (detect T).spaceSize = min (spaceProduct (detect T)) Template.sizeLimit := by
  have hperm : ((detect T).preorder.filterMap (detect T).hotspot?).Perm (detect T).hotspots := by
    have h := (map_hotspot?_perm T).filterMap id
    simpa [List.filterMap_map] using h
  have h := foldl_min_width Template.sizeLimit
    ((detect T).preorder.filterMap (detect T).hotspot?) 1
  rw [Nat.one_mul, (hperm.map _).prod_eq] at h
  exact h

end Detect

/-- The calls for the next assignment answer every assignment that fits exactly once, in the order
of its numeral, and none from then on. -/
theorem enumerate_detect (T : Node) :
    let t := detect T
    let total := (t.hotspots.map (·.kind.width)).prod
    (∀ j < total, ∃ a, (enumerate t).answer j = some a ∧
      a.choices.length = t.hotspots.length ∧
      t.preorder.map a.choice? = (digits (t.preorder.map (width t)) j).map some) ∧
    (∀ j, total ≤ j → (enumerate t).answer j = none) ∧
    (∀ j a, (enumerate t).answer j = some a → a.Fits t) ∧
    (∀ i j a, (enumerate t).answer i = some a → (enumerate t).answer j = some a → i = j) ∧
    (∀ a, a.Fits t → ∃ j < total, ∃ b, (enumerate t).answer j = some b ∧
      (∀ id < t.hotspots.length, b.choice? id = a.choice? id) ∧
      (a.choices.length = t.hotspots.length → b = a)) ∧
    (∀ i j a b, i < j → (enumerate t).answer i = some a → (enumerate t).answer j = some b →
      t.preorder.filterMap a.choice? < t.preorder.filterMap b.choice?) ∧
    t.spaceSize = min total (2 ^ 128 - 1) := by
  intro t total
  refine ⟨?_, ?_, ?_, ?_, ?_, ?_, spaceSize_detect T⟩
  · intro j hj
    exact ⟨variantAt T j, answer_eq_some_iff.mpr ⟨hj, rfl⟩, length_variantAt T j,
      map_choice?_variantAt T j⟩
  · intro j hj
    exact (answer_enumerate T j).trans (if_neg (Nat.not_lt.mpr hj))
  · intro j a h
    obtain ⟨hj, rfl⟩ := answer_eq_some_iff.mp h
    exact fits_variantAt hj
  · intro i j a hi hj
    obtain ⟨hil, rfl⟩ := answer_eq_some_iff.mp hi
    obtain ⟨hjl, he⟩ := answer_eq_some_iff.mp hj
    exact variantAt_injective hil hjl he.symm
  · intro a ha
    obtain ⟨j, hj, hagree⟩ := exists_variantAt ha
    refine ⟨j, hj, variantAt T j, answer_eq_some_iff.mpr ⟨hj, rfl⟩, hagree, fun hl => ?_⟩
    apply Assignment.ext_choice? ((length_variantAt T j).trans hl.symm)
    intro id hid
    rw [length_variantAt] at hid
    exact hagree id hid
  · intro i j a b hij hi hj
    obtain ⟨-, rfl⟩ := answer_eq_some_iff.mp hi
    obtain ⟨hjl, rfl⟩ := answer_eq_some_iff.mp hj
    exact variantAt_increasing hij hjl

end Mender.Variant
