import Mender.Variant.Assignment
import Mender.Proofs.Hotspot.Forest

namespace Mender.Variant

open Syntax Hotspot

namespace Assignment

theorem length_set (a : Assignment) (id alternative : Nat) :
    (a.set id alternative).choices.length = max a.choices.length (id + 1) := by
  simp only [set, List.length_set, List.length_append, List.length_replicate]
  omega

theorem choice?_set (a : Assignment) (id alternative id' : Nat) :
    (a.set id alternative).choice? id' = if id' = id then some alternative else a.choice? id' := by
  unfold choice? set
  by_cases h : id' = id
  · subst h
    rw [if_pos rfl, List.getElem?_set_self (by simp; omega)]
    rfl
  · rw [if_neg h, List.getElem?_set_ne (Ne.symm h), List.getElem?_append]
    split
    · rfl
    · next hl =>
      rw [List.getElem?_eq_none (by omega : a.choices.length ≤ id'), List.getElem?_replicate]
      split <;> rfl

theorem choice?_empty (slots id : Nat) : (empty slots).choice? id = none := by
  rw [choice?, empty, List.getElem?_replicate]
  split <;> rfl

theorem ext_choice? {a b : Assignment} (hl : a.choices.length = b.choices.length)
    (h : ∀ id < a.choices.length, a.choice? id = b.choice? id) : a = b := by
  obtain ⟨as⟩ := a
  obtain ⟨bs⟩ := b
  congr 1
  apply List.ext_getElem hl
  intro id ha hb
  have := h id ha
  simpa [choice?, ha, hb] using this

theorem mem_toList {a : Assignment} {id c : Nat} : (id, c) ∈ a.toList ↔ a.choice? id = some c := by
  rw [toList, List.mem_filterMap, choice?, Option.join_eq_some_iff]
  constructor
  · rintro ⟨⟨d, i⟩, hd, he⟩
    obtain ⟨c', rfl, hc⟩ := Option.map_eq_some_iff.mp he
    obtain ⟨rfl, rfl⟩ := Prod.mk.inj hc
    exact List.mem_zipIdx_iff_getElem?.mp hd
  · intro h
    exact ⟨(some c, id), List.mem_zipIdx_iff_getElem?.mpr h, rfl⟩

theorem toList_ascending (a : Assignment) : a.toList.Pairwise fun p q => p.1 < q.1 := by
  have hplaces : (a.choices.zipIdx.map Prod.snd).Pairwise (· < ·) := by
    rw [List.zipIdx_map_snd]
    exact List.pairwise_lt_range' 1
  rw [List.pairwise_map] at hplaces
  rw [toList, List.pairwise_filterMap]
  apply hplaces.imp
  rintro ⟨c, i⟩ ⟨d, j⟩ hij p hp q hq
  obtain ⟨_, -, rfl⟩ := Option.map_eq_some_iff.mp hp
  obtain ⟨_, -, rfl⟩ := Option.map_eq_some_iff.mp hq
  exact hij

theorem nodup_keys (a : Assignment) : (a.toList.map (·.1)).Nodup := by
  rw [List.Nodup, List.pairwise_map]
  exact a.toList_ascending.imp fun h => Nat.ne_of_lt h

def alternative? (a : Assignment) (id : Nat) (k : Kind) : Option Alternative :=
  (a.choice? id).bind (k.alternatives[·]?)

def InRange (a : Assignment) (t : Template) : Prop :=
  ∀ id < t.hotspots.length, ∀ h ∈ t.hotspot? id, ∀ c ∈ a.choice? id, c < h.kind.width

instance (a : Assignment) (t : Template) : Decidable (a.InRange t) :=
  inferInstanceAs (Decidable (∀ id < t.hotspots.length, ∀ h ∈ t.hotspot? id,
    ∀ c ∈ a.choice? id, c < h.kind.width))

def Fits (a : Assignment) (t : Template) : Prop := a.isTotal t = true ∧ a.InRange t

instance (a : Assignment) (t : Template) : Decidable (a.Fits t) :=
  inferInstanceAs (Decidable (a.isTotal t = true ∧ a.InRange t))

theorem isTotal_detect {a : Assignment} {T : Node} :
    a.isTotal (detect T) = true ↔
      ∀ id < (detect T).hotspots.length, (a.choice? id).isSome = true := by
  rw [isTotal, List.all_eq_true]
  exact forall_congr' fun id => by rw [Template.mem_preorder_detect]

theorem fits_detect {a : Assignment} {T : Node} :
    a.Fits (detect T) ↔
      ∀ id h, (detect T).hotspot? id = some h → (a.alternative? id h.kind).isSome = true := by
  rw [Fits, isTotal_detect]
  constructor
  · rintro ⟨ht, hr⟩ id h hid
    have hl : id < (detect T).hotspots.length := (List.getElem?_eq_some_iff.mp hid).1
    obtain ⟨c, hc⟩ := Option.isSome_iff_exists.mp (ht id hl)
    have hw : c < h.kind.alternatives.length := hr id hl h hid c hc
    rw [alternative?, hc, Option.bind_some, List.getElem?_eq_getElem hw]
    rfl
  · intro ha
    have chosen (id : Nat) (h : Hotspot) (hid : (detect T).hotspot? id = some h) :
        ∃ c, a.choice? id = some c ∧ c < h.kind.width := by
      have hs := ha id h hid
      obtain ⟨alt, hs⟩ := Option.isSome_iff_exists.mp hs
      obtain ⟨c, hc, hg⟩ := Option.bind_eq_some_iff.mp hs
      exact ⟨c, hc, (List.getElem?_eq_some_iff.mp hg).1⟩
    constructor
    · intro id hl
      obtain ⟨c, hc, -⟩ := chosen id _ (List.getElem?_eq_getElem hl)
      rw [hc]; rfl
    · intro id hl h hid c hc
      obtain ⟨c', hc', hw⟩ := chosen id h hid
      rw [hc'] at hc
      exact Option.some.inj hc ▸ hw

end Assignment

end Mender.Variant
