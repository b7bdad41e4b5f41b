import Mender.Proofs.Hotspot.Conflict
import Mender.Proofs.Variant.Enumeration

namespace Mender.Hotspot

namespace Forest

def ids : Forest → List Nat
  | nil => []
  | tree id below rest => id :: (below.ids ++ rest.ids)

theorem map_walk (depth : Nat) (F : Forest) : (F.walk depth).map (·.1) = F.ids := by
  induction F generalizing depth with
  | nil => rfl
  | tree id below rest ihb ihr => simp [walk, ids, ihb, ihr]

end Forest

namespace Template

theorem Spans.unique {t : Template} {ids : List Nat} {F G : Forest} (hF : t.Spans ids F)
    (hG : t.Spans ids G) : G = F := by
  induction hF generalizing G with
  | nil =>
    cases hG
    rfl
  | tree hid _ _ ihb ihr =>
    cases hG with
    | tree hid' hbelow hrest =>
      obtain rfl := Option.some.inj (hid.symm.trans hid')
      rw [ihb hbelow, ihr hrest]

end Template

end Mender.Hotspot

namespace Mender.Variant

open Syntax Hotspot

namespace Assignment

def join (a b : Assignment) : Assignment := a.setAll b.toList

theorem choice?_setAll_of_mem {a : Assignment} {choices : List (Nat × Nat)} {id c : Nat}
    (hn : (choices.map (·.1)).Nodup) (hc : (id, c) ∈ choices) :
    (a.setAll choices).choice? id = some c := by
  have h := map_choice?_setAll (a := a) hn
  rw [List.map_map, List.map_map, List.map_inj_left] at h
  exact h (id, c) hc

theorem choice?_join (a b : Assignment) (id : Nat) :
    (a.join b).choice? id = (b.choice? id).or (a.choice? id) := by
  cases hb : b.choice? id with
  | some c => exact choice?_setAll_of_mem b.nodup_keys (mem_toList.mpr hb)
  | none =>
    apply choice?_setAll_of_notMem
    intro hid
    obtain ⟨⟨id', c⟩, hc, rfl⟩ := List.mem_map.mp hid
    rw [mem_toList, hb] at hc
    cases hc

theorem length_join {a b : Assignment} (h : b.choices.length ≤ a.choices.length) :
    (a.join b).choices.length = a.choices.length := by
  apply length_setAll
  rintro ⟨id, c⟩ hc
  by_contra hid
  have hb : b.choices.length ≤ id := by omega
  rw [mem_toList, choice?, List.getElem?_eq_none hb] at hc
  cases hc

def ofPairs (slots : Nat) (choices : List (Nat × Nat)) : Assignment :=
  (empty slots).setAll choices

theorem choice?_setAll (slots : Nat) (a : Assignment) (choices : List (Nat × Nat)) (id : Nat) :
    (a.setAll choices).choice? id =
      ((ofPairs slots choices).choice? id).or (a.choice? id) := by
  induction choices generalizing a with
  | nil =>
    have he : (ofPairs slots []).choice? id = none := choice?_empty slots id
    rw [he]
    rfl
  | cons p choices ih =>
    obtain ⟨i, c⟩ := p
    have hown : (ofPairs slots ((i, c) :: choices)).choice? id =
        ((ofPairs slots choices).choice? id).or (((empty slots).set i c).choice? id) :=
      ih ((empty slots).set i c)
    change ((a.set i c).setAll choices).choice? id = _
    rw [ih, hown, choice?_set, choice?_set]
    by_cases hid : id = i
    · rw [if_pos hid, if_pos hid, Option.or_assoc, Option.some_or]
    · rw [if_neg hid, if_neg hid, Option.or_assoc, choice?_empty, Option.none_or]

section Slots

variable {slots : Nat} {xs ys : List (Nat × Nat)}

theorem length_ofPairs (h : ∀ p ∈ xs, p.1 < slots) :
    (ofPairs slots xs).choices.length = slots := by
  have hs : (empty slots).choices.length = slots := List.length_replicate
  rw [ofPairs, length_setAll, hs]
  rwa [hs]

theorem ofPairs_append (hx : ∀ p ∈ xs, p.1 < slots) (hy : ∀ p ∈ ys, p.1 < slots) :
    ofPairs slots (xs ++ ys) = (ofPairs slots xs).join (ofPairs slots ys) := by
  have hlx := length_ofPairs hx
  have hly := length_ofPairs hy
  have hl : (ofPairs slots (xs ++ ys)).choices.length = slots :=
    length_ofPairs (List.forall_mem_append.mpr ⟨hx, hy⟩)
  apply ext_choice?
  · rw [hl, length_join (by omega), hlx]
  · intro id _
    rw [choice?_join, ← choice?_setAll]
    simp only [ofPairs, setAll, List.foldl_append]

end Slots

end Assignment

/-- All assignments of a forest: each of its first tree with each of the trees after it, the first
tree being the slowest. Those of a tree are each alternative of its hotspot with each assignment of
what is nested in it. -/
def joint (t : Template) : Forest → List Assignment
  | .nil => [.empty t.hotspots.length]
  | .tree id below rest =>
    let tree := (List.range (width t id)).flatMap fun c =>
      (joint t below).map ((Assignment.empty t.hotspots.length).set id c).join
    tree.flatMap fun a => (joint t rest).map a.join

theorem mem_zip_lt {slots : Nat} {ids ds : List Nat} (h : ∀ id ∈ ids, id < slots) :
    ∀ p ∈ ids.zip ds, p.1 < slots :=
  fun _ hp => h _ (List.of_mem_zip hp).1

theorem joint_eq_map_numerals {t : Template} {F : Forest}
    (hF : ∀ id ∈ F.ids, id < t.hotspots.length) :
    joint t F = (numerals (F.ids.map (width t))).map fun ds =>
      .ofPairs t.hotspots.length (F.ids.zip ds) := by
  induction F with
  | nil => rfl
  | tree id below rest ihb ihr =>
    rw [Forest.ids, List.forall_mem_cons, List.forall_mem_append] at hF
    obtain ⟨hid, hb, hr⟩ := hF
    rw [joint, ihb hb, ihr hr, Forest.ids, List.map_cons, List.map_append, numerals_cons,
      numerals_append]
    simp only [List.map_flatMap, List.flatMap_map, List.flatMap_assoc, List.map_map,
      Function.comp_def]
    apply List.flatMap_congr
    intro c _
    apply List.flatMap_congr
    intro ds hds
    apply List.map_congr_left
    intro es _
    -- The numerals of the nested hotspots end where the rest of the walk begins.
    have hlen : below.ids.length = ds.length := by
      rw [length_of_mem_numerals hds, List.length_map]
    have hown : ∀ p ∈ [(id, c)], p.1 < t.hotspots.length := by simpa using hid
    have htree : ∀ p ∈ [(id, c)] ++ below.ids.zip ds, p.1 < t.hotspots.length :=
      List.forall_mem_append.mpr ⟨hown, mem_zip_lt hb⟩
    rw [List.zip_cons_cons, List.zip_append hlen, ← List.cons_append, ← List.singleton_append,
      Assignment.ofPairs_append htree (mem_zip_lt hr),
      Assignment.ofPairs_append hown (mem_zip_lt hb)]
    rfl

/-- The calls for the next assignment list the nested product of the conflict forest, element by
element, and nothing after it. -/
theorem enumerate_nested (T : Node) :
    let t := detect T
    ∃ F, t.Spans t.roots F ∧ (∀ G, t.Spans t.roots G → G = F) ∧
      ∀ j, (enumerate t).answer j = (joint t F)[j]? := by
  intro t
  have hspans : t.Spans t.roots (forest 0 T.children) :=
    Template.spans_forest (Template.stores_detect T)
  refine ⟨forest 0 T.children, hspans, fun G hG => hspans.unique hG, fun j => ?_⟩
  have hids : (forest 0 T.children).ids = t.preorder := by
    rw [← Forest.map_walk 0, walk_forest, Template.preorder, Template.preorderWithDepth_detect]
  have hlt : ∀ id ∈ (forest 0 T.children).ids, id < t.hotspots.length := by
    rw [hids]
    exact fun id hid => Template.mem_preorder_detect.mp hid
  have hjoint : joint t (forest 0 T.children) =
      (List.range (spaceProduct t)).map (variantAt T) := by
    rw [joint_eq_map_numerals hlt, hids, numerals, prod_map_width, List.map_map]
    rfl
  rw [hjoint, List.getElem?_map, answer_enumerate]
  by_cases hj : j < spaceProduct t
  · rw [if_pos hj, List.getElem?_range hj]
    rfl
  · rw [if_neg hj, List.getElem?_eq_none (by rw [List.length_range]; omega)]
    rfl

end Mender.Variant
