import Mender.Proofs.Hotspot.Forest

namespace Mender.Hotspot

open Syntax

def sighting? (n : Node) : Option (Kind × String × Option Span) :=
  (Kind.of? n).map fun kind => (kind, n.kind, n.span)

def sighting (h : Hotspot) : Kind × String × Option Span :=
  (h.kind, h.node.kind, h.node.span)

theorem hasBlock_cut (k : String) (s : Option Span) (next : Nat) (cs : Children) :
    Kind.hasBlock ⟨k, s, (cut next cs).children⟩ = Kind.hasBlock ⟨k, s, cs⟩ := by
  induction cs generalizing next with
  | nil => rfl
  | token f t rest ih => simp only [cut, Kind.hasBlock_token, ih]
  | hole f i rest ih => simp only [cut, Kind.hasBlock_hole, ih]
  | node f k' s' below rest _ ih =>
    cases h : Kind.of? ⟨k', s', below⟩ with
    | none => simp only [cut_plain h, Kind.hasBlock_node, ih]
    | some kind =>
      -- A block never matches, so no hole takes the place of one.
      obtain ⟨hblock, hdo⟩ := Kind.not_block_of_of? h
      simp only [cut_match h, Kind.hasBlock_hole, Kind.hasBlock_node, ih, hblock, hdo,
        decide_false, Bool.or_false]

theorem of?_cut (k : String) (s : Option Span) (next : Nat) (cs : Children) :
    Kind.of? ⟨k, s, (cut next cs).children⟩ = Kind.of? ⟨k, s, cs⟩ := by
  apply Kind.of?_congr
  · rfl
  · exact fun name => fieldToken?_cut name next cs
  · exact hasBlock_cut k s next cs

theorem of?_of_mem_cut {next : Nat} {cs : Children} {n : Node}
    (hn : n ∈ (cut next cs).children.nodes) : Kind.of? n = none := by
  induction cs generalizing next with
  | nil => cases hn
  | token f t rest ih => exact ih hn
  | hole f i rest ih => exact ih hn
  | node f k s below rest ihb ihr =>
    cases h : Kind.of? ⟨k, s, below⟩ with
    | none =>
      rw [cut_plain h] at hn
      simp only [Children.nodes, List.mem_cons, List.mem_append] at hn
      rcases hn with rfl | hb | hr
      · rw [of?_cut, h]
      · exact ihb hb
      · exact ihr hr
    | some kind =>
      rw [cut_match h] at hn
      exact ihr hn

theorem cut_of_plain {cs : Children} (hcs : ∀ n ∈ cs.nodes, Kind.of? n = none) (next : Nat) :
    cut next cs = ⟨cs, [], []⟩ := by
  induction cs generalizing next with
  | nil => rfl
  | token f t rest ih => rw [cut, ih hcs]
  | hole f i rest ih => rw [cut, ih hcs]
  | node f k s below rest ihb ihr =>
    simp only [Children.nodes, List.forall_mem_cons, List.forall_mem_append] at hcs
    obtain ⟨h, hb, hr⟩ := hcs
    rw [cut_plain h, ihb hb, ihr hr]
    rfl

theorem map_hotspot?_listing {t : Template} {next : Nat} {cs : Children}
    (hst : t.Stores next (cut next cs).hotspots) (depth : Nat) :
    (listing next depth cs).map (fun p => (t.hotspot? p.1).map sighting) =
      (cs.nodes.filterMap sighting?).map some := by
  induction cs generalizing next depth with
  | nil => rfl
  | token f u rest ih => exact ih hst depth
  | hole f i rest ih => exact ih hst depth
  | node f k s below rest ihb ihr =>
    cases h : Kind.of? ⟨k, s, below⟩ with
    | none =>
      obtain ⟨hb, hr⟩ := Template.stores_plain h hst
      have hsight : sighting? ⟨k, s, below⟩ = none := by rw [sighting?, h]; rfl
      simp only [listing, h, Children.nodes, List.map_append, List.filterMap_append,
        List.filterMap_cons, hsight, ihb hb, ihr hr]
    | some kind =>
      obtain ⟨hb, hid, hr⟩ := Template.stores_match h hst
      have hsight : sighting? ⟨k, s, below⟩ = some (kind, k, s) := by rw [sighting?, h]; rfl
      have hown : (t.hotspot? (next + hotspotCount below)).map sighting =
          some (kind, k, s) := by rw [hid]; rfl
      simp only [listing, h, Children.nodes, List.map_cons, List.map_append,
        List.filterMap_append, List.filterMap_cons, hsight, hown, ihb hb, ihr hr]

section Detect

variable (T : Node)

theorem sightings_detect :
    (detect T).preorder.map (fun id => ((detect T).hotspot? id).map sighting) =
      (T.walk.tail.filterMap sighting?).map some := by
  rw [Template.preorder, Template.preorderWithDepth_detect, List.map_map]
  exact map_hotspot?_listing (Template.stores_detect T) 0

variable {T}

theorem of?_captured {h : Hotspot} (hm : h ∈ (detect T).hotspots) :
    Kind.of? h.node = some h.kind ∧ ∀ n ∈ h.node.walk.tail, Kind.of? n = none := by
  obtain ⟨id, hid⟩ := List.mem_iff_getElem?.mp hm
  obtain ⟨n, -, start, hkind, -, hnode, -⟩ := Template.hotspot_detect hid
  rw [hnode]
  refine ⟨(of?_cut n.kind n.span start n.children).trans hkind, fun m hmem => ?_⟩
  exact of?_of_mem_cut hmem

end Detect

/-- Detection captures the matching nodes below the root in the order of a walk over the tree, and
none besides. Each fragment is of the family it was captured for, and no fragment holds another
matching node below its top, so the root of a template is a tree without hotspots. -/
theorem detect_captures (T : Node) :
    let t := detect T
    (t.preorder.map fun id => (t.hotspot? id).map sighting) =
      (T.walk.tail.filterMap sighting?).map some ∧
    t.root = T.update t.root.children ∧
    (∀ h ∈ t.hotspots, Kind.of? h.node = some h.kind) ∧
    (∀ n ∈ t.root.walk.tail, Kind.of? n = none) ∧
    (∀ h ∈ t.hotspots, ∀ n ∈ h.node.walk.tail, Kind.of? n = none) ∧
    detect t.root = ⟨t.root, [], []⟩ := by
  intro t
  have hplain : ∀ n ∈ t.root.walk.tail, Kind.of? n = none := fun n hn => of?_of_mem_cut hn
  refine ⟨sightings_detect T, rfl, fun h hm => (of?_captured hm).1, hplain,
    fun h hm => (of?_captured hm).2, ?_⟩
  rw [detect, cut_of_plain hplain]
  rfl

end Mender.Hotspot
