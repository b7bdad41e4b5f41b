import Mathlib.Data.Finset.Card
import Mathlib.Logic.Relation
import Mender.Proofs.Hotspot.Forest

/-!
The conflict forest of a detected template. The holes of the fragments and the lists of children
tell the same forest: every id stands in one hole, what is nested in a hotspot has the ids right
below its own, and the walk over the lists of children lists the forest outermost first.
-/

namespace Mender.Hotspot

open Syntax

inductive Forest where
  | nil
  | tree (id : Nat) (below rest : Forest)
  deriving DecidableEq, Repr

namespace Forest

def append : Forest → Forest → Forest
  | nil, r => r
  | tree id below rest, r => tree id below (rest.append r)

def walk (depth : Nat) : Forest → List (Nat × Nat)
  | nil => []
  | tree id below rest => (id, depth) :: (below.walk (depth + 1) ++ rest.walk depth)

theorem walk_append (depth : Nat) (F G : Forest) :
    (F.append G).walk depth = F.walk depth ++ G.walk depth := by
  induction F with
  | nil => rfl
  | tree id below rest _ ih => simp [append, walk, ih]

end Forest

namespace Template

/-- The forest that grows from the given hotspots along the lists of children. -/
inductive Spans (t : Template) : List Nat → Forest → Prop
  | nil : Spans t [] .nil
  | tree {id : Nat} {h : Hotspot} {ids : List Nat} {below rest : Forest}
      (hid : t.hotspot? id = some h) (hbelow : Spans t h.children below)
      (hrest : Spans t ids rest) : Spans t (id :: ids) (.tree id below rest)

theorem Spans.append {t : Template} {ids ids' : List Nat} {F G : Forest} (hF : t.Spans ids F)
    (hG : t.Spans ids' G) : t.Spans (ids ++ ids') (F.append G) := by
  induction hF with
  | nil => exact hG
  | tree hid hbelow _ _ ih => exact .tree hid hbelow ih

def Encloses (t : Template) : Nat → Nat → Prop :=
  Relation.TransGen fun outer inner => inner ∈ t.childrenOf outer

section Encloses

variable {t : Template} {i j : Nat}

theorem encloses_iff_head :
    t.Encloses i j ↔ ∃ c ∈ t.childrenOf i, c = j ∨ t.Encloses c j := by
  rw [Encloses, Relation.TransGen.head'_iff]
  apply exists_congr
  intro c
  rw [Relation.reflTransGen_iff_eq_or_transGen, eq_comm]

theorem encloses_iff_tail :
    t.Encloses i j ↔ ∃ p, j ∈ t.childrenOf p ∧ (i = p ∨ t.Encloses i p) := by
  rw [Encloses, Relation.TransGen.tail'_iff]
  apply exists_congr
  intro p
  rw [Relation.reflTransGen_iff_eq_or_transGen, eq_comm, and_comm]

theorem childrenOf_of_hotspot? {h : Hotspot} (hi : t.hotspot? i = some h) :
    t.childrenOf i = h.children := by
  rw [childrenOf, hi]

end Encloses

end Template

theorem holes_cut {cs : Children} (hcs : cs.hasHoles = false) (next : Nat) :
    (cut next cs).children.holes = (cut next cs).top := by
  induction cs generalizing next with
  | nil => rfl
  | token f t rest ih => exact ih hcs next
  | hole f i rest => cases hcs
  | node f k s below rest ihb ihr =>
    rw [Children.hasHoles, Bool.or_eq_false_iff] at hcs
    cases h : Kind.of? ⟨k, s, below⟩ with
    | none => simp [cut_plain h, Children.holes, ihb hcs.1, ihr hcs.2]
    | some kind => simp [cut_match h, Children.holes, ihr hcs.2]

theorem holes_cut_perm {cs : Children} (hcs : cs.hasHoles = false) (next : Nat) :
    ((cut next cs).children.holes ++
      (cut next cs).hotspots.flatMap (·.node.children.holes)).Perm
        (List.range' next (hotspotCount cs)) := by
  induction cs generalizing next with
  | nil => exact .refl _
  | token f t rest ih => exact ih hcs next
  | hole f i rest => cases hcs
  | node f k s below rest ihb ihr =>
    rw [Children.hasHoles, Bool.or_eq_false_iff] at hcs
    have hb := ihb hcs.1 next
    cases h : Kind.of? ⟨k, s, below⟩ with
    | none =>
      have hr := ihr hcs.2 (next + hotspotCount below)
      have hall := hb.append hr
      simp only [cut_plain h, Children.holes, hotspotCount_plain h, List.flatMap_append,
        ← List.range'_append_1]
      rw [List.append_assoc] at hall ⊢
      exact ((List.perm_append_comm_assoc _ _ _).append_left _).trans hall
    | some kind =>
      have hr := ihr hcs.2 (next + hotspotCount below + 1)
      have hall := hb.append (hr.cons (next + hotspotCount below))
      simp only [cut_match h, Children.holes, hotspotCount_match h, List.flatMap_append,
        List.flatMap_cons, ← List.range'_append_1, List.range'_one]
      rw [List.append_assoc, List.singleton_append, ← Nat.add_assoc]
      refine List.Perm.trans ?_ hall
      rw [List.perm_iff_count]
      intro id
      simp only [List.count_append, List.count_cons]
      omega

theorem mem_top_cut {next c : Nat} {cs : Children} (hc : c ∈ (cut next cs).top) :
    next ≤ c ∧ c < next + hotspotCount cs := by
  induction cs generalizing next with
  | nil => cases hc
  | token f t rest ih => exact ih hc
  | hole f i rest ih => exact ih hc
  | node f k s below rest ihb ihr =>
    cases h : Kind.of? ⟨k, s, below⟩ with
    | none =>
      rw [hotspotCount_plain h]
      simp only [cut_plain h, List.mem_append] at hc
      rcases hc with hb | hr
      · have := ihb hb
        omega
      · have := ihr hr
        omega
    | some kind =>
      rw [hotspotCount_match h]
      simp only [cut_match h, List.mem_cons] at hc
      rcases hc with rfl | hr
      · omega
      · have := ihr hr
        omega

theorem hasHoles_of_mem_nodes {cs : Children} (hcs : cs.hasHoles = false) {n : Node}
    (hn : n ∈ cs.nodes) : n.children.hasHoles = false := by
  induction cs with
  | nil => cases hn
  | token f t rest ih => exact ih hcs hn
  | hole f i rest => cases hcs
  | node f k s below rest ihb ihr =>
    rw [Children.hasHoles, Bool.or_eq_false_iff] at hcs
    rw [Children.nodes, List.mem_cons, List.mem_append] at hn
    rcases hn with rfl | hb | hr
    · exact hcs.1
    · exact ihb hcs.1 hb
    · exact ihr hcs.2 hr

namespace Template

variable {t : Template}

theorem reached_cut {next j : Nat} {cs : Children} (hst : t.Stores next (cut next cs).hotspots) :
    (∃ r ∈ (cut next cs).top, r = j ∨ t.Encloses r j) ↔
      next ≤ j ∧ j < next + hotspotCount cs := by
  induction cs generalizing next with
  | nil =>
    constructor
    · rintro ⟨r, hr, -⟩
      cases hr
    · rw [hotspotCount_nil]
      omega
  | token f u rest ih => exact ih hst
  | hole f i rest ih => exact ih hst
  | node f k s below rest ihb ihr =>
    cases h : Kind.of? ⟨k, s, below⟩ with
    | none =>
      obtain ⟨hb, hr⟩ := stores_plain h hst
      simp only [cut_plain h, hotspotCount_plain h, List.mem_append, or_and_right, exists_or,
        ihb hb, ihr hr]
      omega
    | some kind =>
      obtain ⟨hb, hown, hr⟩ := stores_match h hst
      have hinner : t.Encloses (next + hotspotCount below) j ↔ _ := encloses_iff_head
      rw [childrenOf_of_hotspot? hown, ihb hb] at hinner
      simp only [cut_match h, hotspotCount_match h, List.mem_cons, exists_eq_or_imp, hinner, ihr hr]
      omega

end Template

def forest (next : Nat) : Children → Forest
  | .nil => .nil
  | .token _ _ rest => forest next rest
  | .hole _ _ rest => forest next rest
  | .node _ k s below rest =>
    let id := next + hotspotCount below
    match Kind.of? ⟨k, s, below⟩ with
    | none => (forest next below).append (forest id rest)
    | some _ => .tree id (forest next below) (forest (id + 1) rest)

theorem walk_forest (next depth : Nat) (cs : Children) :
    (forest next cs).walk depth = listing next depth cs := by
  induction cs generalizing next depth with
  | nil => rfl
  | token f t rest ih => exact ih next depth
  | hole f i rest ih => exact ih next depth
  | node f k s below rest ihb ihr =>
    cases h : Kind.of? ⟨k, s, below⟩ with
    | none => simp [forest, listing, h, Forest.walk_append, ihb, ihr]
    | some kind => simp [forest, listing, h, Forest.walk, ihb, ihr]

namespace Template

theorem spans_forest {t : Template} {next : Nat} {cs : Children}
    (hst : t.Stores next (cut next cs).hotspots) : t.Spans (cut next cs).top (forest next cs) := by
  induction cs generalizing next with
  | nil => exact .nil
  | token f u rest ih => exact ih hst
  | hole f i rest ih => exact ih hst
  | node f k s below rest ihb ihr =>
    cases h : Kind.of? ⟨k, s, below⟩ with
    | none =>
      obtain ⟨hb, hr⟩ := stores_plain h hst
      simp only [cut_plain h, forest, h]
      exact (ihb hb).append (ihr hr)
    | some kind =>
      obtain ⟨hb, hown, hr⟩ := stores_match h hst
      simp only [cut_match h, forest, h]
      exact .tree hown (ihb hb) (ihr hr)

theorem card_of_mem_walk {t : Template}
    (hparent : ∀ p q c, c ∈ t.childrenOf p → c ∈ t.childrenOf q → p = q)
    (hself : ∀ j, ¬t.Encloses j j) {ids : List Nat} {F : Forest} (hF : t.Spans ids F)
    {around : Finset Nat} (haround : ∀ r ∈ ids, ∀ j, j ∈ around ↔ t.Encloses j r)
    {id depth : Nat} (hid : (id, depth) ∈ F.walk around.card) :
    ∃ outer : Finset Nat, outer.card = depth ∧ ∀ j, j ∈ outer ↔ t.Encloses j id := by
  induction hF generalizing around with
  | nil => cases hid
  | @tree top h ids below rest htop _ _ ihb ihr =>
    rw [List.forall_mem_cons] at haround
    obtain ⟨hhere, hrest⟩ := haround
    rw [Forest.walk, List.mem_cons, List.mem_append] at hid
    rcases hid with he | hb | hr
    · obtain ⟨rfl, rfl⟩ := Prod.mk.inj he
      exact ⟨around, rfl, hhere⟩
    · have hnew : top ∉ around := fun hm => hself top ((hhere top).mp hm)
      have hcard : (insert top around).card = around.card + 1 := Finset.card_insert_of_notMem hnew
      have hchild : ∀ c ∈ h.children, ∀ j, j ∈ insert top around ↔ t.Encloses j c := by
        intro c hc j
        rw [← childrenOf_of_hotspot? htop] at hc
        rw [Finset.mem_insert, hhere, encloses_iff_tail (j := c)]
        constructor
        · intro hj
          exact ⟨top, hc, hj⟩
        · rintro ⟨p, hp, hj⟩
          rwa [hparent p top c hp hc] at hj
      rw [← hcard] at hb
      exact ihb hchild hb
    · exact ihr hrest hr

theorem Encloses.lt {t : Template} (hlt : ∀ p, ∀ c ∈ t.childrenOf p, c < p) {i j : Nat}
    (h : t.Encloses i j) : j < i := by
  induction h with
  | single hc => exact hlt _ _ hc
  | tail _ hc ih => exact (hlt _ _ hc).trans ih

end Template

section Detect

variable {T : Node}

theorem lt_of_mem_childrenOf {id c : Nat} (hc : c ∈ (detect T).childrenOf id) : c < id := by
  cases hid : (detect T).hotspot? id with
  | none => rw [Template.childrenOf, hid] at hc; cases hc
  | some h =>
    obtain ⟨n, -, start, -, hblock, -, hchildren, -⟩ := Template.hotspot_detect hid
    rw [Template.childrenOf_of_hotspot? hid, hchildren] at hc
    have := mem_top_cut hc
    omega

theorem holes_of_hotspot (hT : T.hasHoles = false) {h : Hotspot} (hm : h ∈ (detect T).hotspots) :
    h.node.children.holes = h.children := by
  obtain ⟨id, hid⟩ := List.mem_iff_getElem?.mp hm
  obtain ⟨n, hn, start, -, -, hnode, hchildren, -⟩ := Template.hotspot_detect hid
  rw [hnode, hchildren]
  exact holes_cut (hasHoles_of_mem_nodes hT hn) start

theorem holes_detect_perm (hT : T.hasHoles = false) :
    ((detect T).root.children.holes ++
      (detect T).hotspots.flatMap (·.node.children.holes)).Perm
        (List.range (detect T).hotspots.length) := by
  rw [Template.length_detect, List.range_eq_range']
  exact holes_cut_perm hT 0

theorem nodup_children (hT : T.hasHoles = false) :
    ((detect T).roots ++ (detect T).hotspots.flatMap (·.children)).Nodup := by
  have hroots : (detect T).root.children.holes = (detect T).roots := holes_cut hT 0
  have hchildren : (detect T).hotspots.flatMap (·.node.children.holes) =
      (detect T).hotspots.flatMap (·.children) := by
    rw [List.flatMap_def, List.flatMap_def]
    exact congrArg List.flatten (List.map_congr_left fun h hm => holes_of_hotspot hT hm)
  rw [← hroots, ← hchildren]
  exact (holes_detect_perm hT).nodup_iff.mpr List.nodup_range

theorem exists_hotspot_of_mem_childrenOf {t : Template} {p c : Nat} (hc : c ∈ t.childrenOf p) :
    ∃ h, t.hotspots[p]? = some h ∧ c ∈ h.children := by
  cases hp : t.hotspot? p with
  | none => rw [Template.childrenOf, hp] at hc; cases hc
  | some h =>
    rw [Template.childrenOf_of_hotspot? hp] at hc
    exact ⟨h, hp, hc⟩

theorem parent_unique (hT : T.hasHoles = false) (p q c : Nat)
    (hp : c ∈ (detect T).childrenOf p) (hq : c ∈ (detect T).childrenOf q) : p = q := by
  obtain ⟨h, hp, hch⟩ := exists_hotspot_of_mem_childrenOf hp
  obtain ⟨g, hq, hcg⟩ := exists_hotspot_of_mem_childrenOf hq
  obtain ⟨hpl, rfl⟩ := List.getElem?_eq_some_iff.mp hp
  obtain ⟨hql, rfl⟩ := List.getElem?_eq_some_iff.mp hq
  have hnodup := (List.nodup_append.mp (nodup_children hT)).2.1
  have hdisjoint := List.pairwise_iff_getElem.mp (List.nodup_flatMap.mp hnodup).2
  rcases Nat.lt_trichotomy p q with hlt | heq | hgt
  · exact absurd hcg (hdisjoint p q hpl hql hlt hch)
  · exact heq
  · exact absurd hch (hdisjoint q p hql hpl hgt hcg)

theorem not_encloses_root (hT : T.hasHoles = false) {r j : Nat} (hr : r ∈ (detect T).roots) :
    ¬(detect T).Encloses j r := by
  intro h
  obtain ⟨p, hp, -⟩ := Template.encloses_iff_tail.mp h
  obtain ⟨g, hg, hmem⟩ := exists_hotspot_of_mem_childrenOf hp
  have hchild : r ∈ (detect T).hotspots.flatMap (·.children) :=
    List.mem_flatMap.mpr ⟨g, List.mem_of_getElem? hg, hmem⟩
  exact (List.nodup_append.mp (nodup_children hT)).2.2 r hr r hchild rfl

theorem encloses_block {id : Nat} {h : Hotspot} (hid : (detect T).hotspot? id = some h) :
    ∃ first ≤ id, ∀ j, (j = id ∨ (detect T).Encloses id j) ↔ first ≤ j ∧ j ≤ id := by
  obtain ⟨n, -, start, -, hblock, -, hchildren, hst⟩ := Template.hotspot_detect hid
  refine ⟨start, by omega, fun j => ?_⟩
  rw [Template.encloses_iff_head, Template.childrenOf_of_hotspot? hid, hchildren,
    Template.reached_cut hst]
  omega

theorem depth_eq_card (hT : T.hasHoles = false) {id depth : Nat}
    (hid : (id, depth) ∈ (detect T).preorderWithDepth) :
    ∃ outer : Finset Nat, outer.card = depth ∧ ∀ j, j ∈ outer ↔ (detect T).Encloses j id := by
  have hself : ∀ j, ¬(detect T).Encloses j j := fun j hj =>
    Nat.lt_irrefl j (hj.lt fun _ _ => lt_of_mem_childrenOf)
  have hroots : ∀ r ∈ (detect T).roots, ∀ j, j ∈ (∅ : Finset Nat) ↔ (detect T).Encloses j r := by
    intro r hr j
    exact iff_of_false (Finset.notMem_empty j) (not_encloses_root hT hr)
  rw [Template.preorderWithDepth_detect, ← walk_forest] at hid
  exact Template.card_of_mem_walk (parent_unique hT) hself
    (Template.spans_forest (Template.stores_detect T)) hroots hid

/-- The holes and the lists of children of a detected template are one forest. -/
theorem conflict_forest (hT : T.hasHoles = false) :
    let t := detect T
    let n := t.hotspots.length
    (t.root.children.holes ++ t.hotspots.flatMap (·.node.children.holes)).Perm (List.range n) ∧
    t.root.children.holes = t.roots ∧
    (∀ h ∈ t.hotspots, h.node.children.holes = h.children) ∧
    (∀ id h, t.hotspot? id = some h → (∀ c ∈ h.children, c < id) ∧
      ∃ first ≤ id, ∀ j, (j = id ∨ t.Encloses id j) ↔ first ≤ j ∧ j ≤ id) ∧
    (∃ F : Forest, t.Spans t.roots F ∧ t.preorderWithDepth = F.walk 0) ∧
    t.preorder.Perm (List.range n) ∧
    ∀ id depth, (id, depth) ∈ t.preorderWithDepth →
      ∃ outer : Finset Nat, outer.card = depth ∧ ∀ j, j ∈ outer ↔ t.Encloses j id := by
  intro t n
  refine ⟨holes_detect_perm hT, holes_cut hT 0, fun h => holes_of_hotspot hT, ?_, ?_,
    Template.preorder_detect_perm T, fun id depth => depth_eq_card hT⟩
  · intro id h hid
    refine ⟨fun c hc => ?_, encloses_block hid⟩
    rw [← Template.childrenOf_of_hotspot? hid] at hc
    exact lt_of_mem_childrenOf hc
  · refine ⟨forest 0 T.children, Template.spans_forest (Template.stores_detect T), ?_⟩
    rw [walk_forest]
    exact Template.preorderWithDepth_detect T

end Detect

theorem conflict_forest_nested :
    nested.hasHoles = false ∧ (detect nested).preorderWithDepth = [(2, 0), (1, 1), (0, 2)] ∧
      ∃ outer : Finset Nat, outer.card = 2 ∧ ∀ j, j ∈ outer ↔ (detect nested).Encloses j 0 := by
  have hwalk : (detect nested).preorderWithDepth = [(2, 0), (1, 1), (0, 2)] := by
    rw [Template.preorderWithDepth_detect]
    decide +kernel
  obtain ⟨-, -, -, -, -, -, hdepth⟩ := conflict_forest (T := nested) rfl
  exact ⟨rfl, hwalk, hdepth 0 2 (by simp [hwalk])⟩

end Mender.Hotspot
