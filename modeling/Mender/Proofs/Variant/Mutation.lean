import Mender.Proofs.Hotspot.Conflict
import Mender.Proofs.Variant.Fault

/-!
Variants without templates. `mutate` rewrites the matching nodes of a tree where they stand, the
inner ones first; building an assignment from the detected template gives the same tree, or the
first fault of the assignment.
-/

namespace Mender.Variant

open Syntax Hotspot

namespace Assignment

def rewrite (a : Assignment) (id : Nat) (kind : Kind) (n : Node) : Node :=
  ((a.alternative? id kind).map (·.apply n)).getD n

/-- Rewrites the matching nodes, `next` being the post-order number of the first. The family of a
node is that of the node as it was, its rewrite applies to what has become of it. -/
def mutate (a : Assignment) (next : Nat) : Children → Children
  | .nil => .nil
  | .token f t rest => .token f t (mutate a next rest)
  | .hole f i rest => .hole f i (mutate a next rest)
  | .node f k s below rest =>
    let n : Node := ⟨k, s, mutate a next below⟩
    let id := next + hotspotCount below
    match Kind.of? ⟨k, s, below⟩ with
    | none => .cons ⟨f, .node n⟩ (mutate a id rest)
    | some kind => .cons ⟨f, .node (a.rewrite id kind n)⟩ (mutate a (id + 1) rest)

def variant (a : Assignment) (T : Node) : Node := T.update (a.mutate 0 T.children)

def mutated (a : Assignment) (next : Nat) (n : Node) : Node :=
  let m := n.update (a.mutate next n.children)
  match Kind.of? n with
  | none => m
  | some kind => a.rewrite (next + hotspotCount n.children) kind m

theorem mutate_node (a : Assignment) (next : Nat) (f : Option String) (k : String)
    (s : Option Span) (below rest : Children) :
    a.mutate next (.node f k s below rest) =
      .cons ⟨f, .node (a.mutated next ⟨k, s, below⟩)⟩
        (a.mutate (next + hotspotCount (.node f k s below .nil)) rest) := by
  cases h : Kind.of? ⟨k, s, below⟩ with
  | none => simp [mutate, mutated, h, hotspotCount_plain h, Node.update]
  | some kind => simp [mutate, mutated, h, hotspotCount_match h, Node.update, Nat.add_assoc]

theorem mutate_congr {a b : Assignment} {next : Nat} {cs : Children}
    (h : ∀ id < next + hotspotCount cs, a.choice? id = b.choice? id) :
    a.mutate next cs = b.mutate next cs := by
  induction cs generalizing next with
  | nil => rfl
  | token f t rest ih => rw [mutate, mutate, ih h]
  | hole f i rest ih => rw [mutate, mutate, ih h]
  | node f k s below rest ihb ihr =>
    cases hk : Kind.of? ⟨k, s, below⟩ with
    | none =>
      rw [hotspotCount_plain hk] at h
      have hbelow : a.mutate next below = _ := ihb fun id hid => h id (by omega)
      have hrest : a.mutate (next + hotspotCount below) rest = _ :=
        ihr fun id hid => h id (by omega)
      simp only [mutate, hk, hbelow, hrest]
    | some kind =>
      rw [hotspotCount_match hk] at h
      have hbelow : a.mutate next below = _ := ihb fun id hid => h id (by omega)
      have hrest : a.mutate (next + hotspotCount below + 1) rest = _ :=
        ihr fun id hid => h id (by omega)
      have hown : a.choice? (next + hotspotCount below) = _ := h _ (by omega)
      simp only [mutate, hk, hbelow, hrest, rewrite, alternative?, hown]

theorem variant_congr {a b : Assignment} {T : Node}
    (h : ∀ id < (detect T).hotspots.length, a.choice? id = b.choice? id) :
    a.variant T = b.variant T := by
  rw [variant, variant, mutate_congr fun id hid => h id (by
    rwa [Template.length_detect, ← Nat.zero_add (hotspotCount T.children)])]

theorem fieldToken?_mutate (a : Assignment) (name : String) (next : Nat) (cs : Children) :
    (a.mutate next cs).fieldToken? name = cs.fieldToken? name := by
  induction cs generalizing next with
  | nil => rfl
  | token f t rest ih => simp [mutate, ih]
  | hole f i rest ih => simp [mutate, ih]
  | node f k s below rest _ ih => simp [mutate_node, Children.cons, ih]

theorem mutate_of_text (a : Assignment) {cs : Children} (h : cs.text = "") (next : Nat) :
    a.mutate next cs = cs := by
  induction cs generalizing next with
  | nil => rfl
  | token f t rest ih =>
    rw [Children.text_token, String.append_eq_empty_iff] at h
    rw [mutate, ih h.2]
  | hole f i rest ih =>
    rw [Children.text_hole, String.append_eq_empty_iff] at h
    rw [mutate, ih h.2]
  | node f k s below rest ihb ihr =>
    rw [Children.text_node, String.append_eq_empty_iff] at h
    have hplain : Kind.of? ⟨k, s, below⟩ = none := Kind.of?_eq_none_of_text h.1
    simp only [mutate, hplain, ihb h.1, ihr h.2]
    rfl

end Assignment

theorem fillHoles_of_free {fill : Nat → Except BuildError Node} {cs : Children}
    (h : cs.hasHoles = false) : fillHoles fill cs = .ok cs := by
  induction cs with
  | nil => rfl
  | token f t rest ih =>
    rw [fillHoles, ih h]
    rfl
  | hole f i rest => cases h
  | node f k s below rest _ ih =>
    rw [Children.hasHoles, Bool.or_eq_false_iff] at h
    rw [fillHoles, ih h.2, h.1]
    rfl

theorem fillHoles_node (fill : Nat → Except BuildError Node) (f : Option String) (k : String)
    (s : Option Span) (below rest : Children) :
    fillHoles fill (.node f k s below rest) = (do
      let below ← fillHoles fill below
      return .node f k s below (← fillHoles fill rest)) := by
  cases h : below.hasHoles with
  | false =>
    rw [fillHoles, fillHoles_of_free h, h]
    rfl
  | true =>
    rw [fillHoles, h]
    rfl

section Resolve

variable {t : Template} {a : Assignment}

theorem resolve_stored {levels id : Nat} {h : Hotspot} (hid : t.hotspot? id = some h) :
    resolve t a (levels + 1) id =
      (fillHoles (resolve t a levels) h.node.children).bind fun children =>
        (a.fault? t id).elim (.ok (a.rewrite id h.kind (h.node.update children))) .error := by
  rw [resolve, hid]
  cases hc : fillHoles (resolve t a levels) h.node.children with
  | error e => simp only [hc]; rfl
  | ok children =>
    cases hch : a.choice? id with
    | none =>
      have hf : a.fault? t id = some (.incomplete id) := by simp [Assignment.fault?, hid, hch]
      simp only [hc, hf]
      rfl
    | some c =>
      by_cases hlt : c < h.kind.alternatives.length
      · have hf : a.fault? t id = none := (Assignment.fault?_eq_none_iff hid).mpr ⟨c, hch, hlt⟩
        simp only [hc, hch, hf, Assignment.rewrite, Assignment.alternative?, Option.bind_some,
          List.getElem?_eq_getElem hlt]
        rfl
      · have hf : a.fault? t id = some (.invalidChoice id c h.kind.width) := by
          simp [Assignment.fault?, hid, hch, Kind.width, hlt]
        simp only [hc, hf, List.getElem?_eq_none (Nat.le_of_not_lt hlt)]
        rfl

theorem fillHoles_cut {next levels : Nat} {cs : Children} (hcs : cs.hasHoles = false)
    (hst : t.Stores next (cut next cs).hotspots) (hl : next + hotspotCount cs ≤ levels) :
    fillHoles (resolve t a levels) (cut next cs).children =
      (a.firstFault? t next (hotspotCount cs)).elim (.ok (a.mutate next cs)) .error := by
  induction cs generalizing next levels with
  | nil => rfl
  | token f u rest ih =>
    have hr : fillHoles (resolve t a levels) _ = _ := ih hcs hst hl
    rw [cut, fillHoles, hr, hotspotCount_token]
    cases a.firstFault? t next (hotspotCount rest) <;> rfl
  | hole f i rest => cases hcs
  | node f k s below rest ihb ihr =>
    rw [Children.hasHoles, Bool.or_eq_false_iff] at hcs
    cases h : Kind.of? ⟨k, s, below⟩ with
    | none =>
      obtain ⟨hb, hr⟩ := Template.stores_plain h hst
      rw [hotspotCount_plain h] at hl
      have hbelow : fillHoles (resolve t a levels) _ = _ := ihb hcs.1 hb (by omega)
      have hrest : fillHoles (resolve t a levels) _ = _ := ihr hcs.2 hr (by omega)
      simp only [cut_plain h, fillHoles_node, hbelow, hrest, hotspotCount_plain h,
        Assignment.firstFault?_append, Assignment.mutate, h]
      cases a.firstFault? t next (hotspotCount below) with
      | some e => rfl
      | none => cases a.firstFault? t (next + hotspotCount below) (hotspotCount rest) <;> rfl
    | some kind =>
      obtain ⟨hb, hid, hr⟩ := Template.stores_match h hst
      rw [hotspotCount_match h] at hl
      -- The hotspots nested in this one have smaller ids, so one level less is enough for them.
      obtain ⟨levels', rfl⟩ : ∃ m, levels = m + 1 := ⟨levels - 1, by omega⟩
      have hbelow : fillHoles (resolve t a levels') _ = _ := ihb hcs.1 hb (by omega)
      have hrest : fillHoles (resolve t a (levels' + 1)) _ = _ := ihr hcs.2 hr (by omega)
      simp only [cut_match h, fillHoles, resolve_stored hid, hbelow, hrest, hotspotCount_match h,
        Assignment.firstFault?_append, Assignment.firstFault?_one, Assignment.mutate, h]
      cases a.firstFault? t next (hotspotCount below) with
      | some e => rfl
      | none =>
        cases a.fault? t (next + hotspotCount below) with
        | some e => rfl
        | none =>
          cases a.firstFault? t (next + hotspotCount below + 1) (hotspotCount rest) <;> rfl

end Resolve

section Detect

variable {T : Node} {a : Assignment}

theorem build_eq (hT : T.hasHoles = false) (a : Assignment) :
    build (detect T) a =
      (a.firstFault? (detect T) 0 (detect T).hotspots.length).elim (.ok (a.variant T)) .error := by
  have hl : 0 + hotspotCount T.children ≤ (detect T).hotspots.length := by
    rw [Template.length_detect, Nat.zero_add]
  have h : fillHoles (resolve (detect T) a _) _ = _ :=
    fillHoles_cut hT (Template.stores_detect T) hl
  unfold build
  change (do return T.update (← fillHoles (resolve (detect T) a _) (cut 0 T.children).children)) = _
  rw [h, ← Template.length_detect]
  cases a.firstFault? (detect T) 0 (detect T).hotspots.length <;> rfl

theorem build_eq_variant (hT : T.hasHoles = false) (ha : a.Fits (detect T)) :
    build (detect T) a = .ok (a.variant T) := by
  rw [build_eq hT, Assignment.fits_iff_no_fault.mp ha]
  rfl

theorem resolveHotspot_detect (hT : T.hasHoles = false) (ha : a.Fits (detect T)) {id : Nat}
    {h : Hotspot} (hid : (detect T).hotspot? id = some h) :
    ∃ n ∈ T.children.nodes, ∃ start, Kind.of? n = some h.kind ∧
      id = start + hotspotCount n.children ∧ h.node = n.update (cut start n.children).children ∧
      (detect T).Stores start (cut start n.children).hotspots ∧
      resolveHotspot (detect T) a id = .ok (a.mutated start n) := by
  obtain ⟨n, hn, start, hkind, hblock, hnode, -, hst⟩ := Template.hotspot_detect hid
  refine ⟨n, hn, start, hkind, hblock, hnode, hst, ?_⟩
  have hlt : id < (detect T).hotspots.length := (List.getElem?_eq_some_iff.mp hid).1
  have hclean := Assignment.firstFault?_eq_none_iff.mp (Assignment.fits_iff_no_fault.mp ha)
  obtain ⟨levels, hlevels⟩ : ∃ levels, (detect T).hotspots.length = levels + 1 :=
    ⟨(detect T).hotspots.length - 1, by omega⟩
  have hbelow : a.firstFault? (detect T) start (hotspotCount n.children) = none :=
    Assignment.firstFault?_eq_none_of fun j hj => hclean j (by omega)
  have hfill : fillHoles (resolve (detect T) a levels) _ = _ :=
    fillHoles_cut (hasHoles_of_mem_nodes hT hn) hst (by omega)
  have hchildren : h.node.children = (cut start n.children).children := by
    rw [hnode]
    rfl
  rw [resolveHotspot, hlevels, resolve_stored hid, hchildren, hfill, hbelow, hclean id hlt,
    Assignment.mutated, hkind, hnode, ← hblock]
  rfl

/-- An assignment builds a variant of a detected template exactly if it is total and in range. The
error of any other names the smallest hotspot without a fitting choice. -/
theorem build_fault (hT : T.hasHoles = false) (a : Assignment) :
    let t := detect T
    ((∃ n, build t a = .ok n) ↔ a.isTotal t = true ∧ a.InRange t) ∧
    (¬(a.isTotal t = true ∧ a.InRange t) → ∃ id h, t.hotspot? id = some h ∧
      (∀ j < id, ∀ g, t.hotspot? j = some g → ∃ c, a.choice? j = some c ∧ c < g.kind.width) ∧
      (a.choice? id = none ∧ build t a = .error (.incomplete id) ∨
        ∃ c, a.choice? id = some c ∧ h.kind.width ≤ c ∧
          build t a = .error (.invalidChoice id c h.kind.width))) := by
  intro t
  have hfits : a.isTotal t = true ∧ a.InRange t ↔ _ := Assignment.fits_iff_no_fault
  rw [hfits, build_eq hT]
  cases hfirst : a.firstFault? t 0 t.hotspots.length with
  | none => exact ⟨iff_of_true ⟨_, rfl⟩ rfl, fun hno => absurd rfl hno⟩
  | some e =>
    refine ⟨iff_of_false (fun ⟨_, hn⟩ => nomatch hn) (fun hn => nomatch hn), fun _ => ?_⟩
    obtain ⟨id, hlt, hfault, hbefore⟩ := Assignment.exists_of_firstFault? hfirst
    have hid : t.hotspot? id = some _ := List.getElem?_eq_getElem hlt
    refine ⟨id, _, hid, fun j hj g hg => (Assignment.fault?_eq_none_iff hg).mp (hbefore j hj), ?_⟩
    rcases Assignment.fault?_eq_some hid hfault with ⟨hc, rfl⟩ | ⟨c, hc, hwide, rfl⟩
    · exact Or.inl ⟨hc, rfl⟩
    · exact Or.inr ⟨c, hc, hwide, rfl⟩

end Detect

theorem build_fault_nested :
    nested.hasHoles = false ∧
      build (detect nested) ⟨[some 0, some 7, none, some 9]⟩ = .error (.invalidChoice 1 7 2) := by
  refine ⟨rfl, ?_⟩
  obtain ⟨-, hfault⟩ := build_fault (T := nested) rfl ⟨[some 0, some 7, none, some 9]⟩
  obtain ⟨id, h, hid, hbefore, hcause⟩ := hfault (by decide +kernel)
  obtain ⟨g, hg, hkind⟩ : ∃ g, (detect nested).hotspot? 1 = some g ∧ g.kind = .filter :=
    ⟨_, rfl, by decide +kernel⟩
  match id with
  | 0 =>
    have := Kind.two_le_width h.kind
    rcases hcause with ⟨hc, -⟩ | ⟨c, hc, hwide, -⟩
    · cases hc
    · obtain rfl : 0 = c := Option.some.inj hc
      omega
  | 1 =>
    obtain rfl := Option.some.inj (hid.symm.trans hg)
    rcases hcause with ⟨hc, -⟩ | ⟨c, hc, -, he⟩
    · cases hc
    · obtain rfl : 7 = c := Option.some.inj hc
      rw [he, hkind]
      rfl
  | id + 2 =>
    obtain ⟨c, hc, hlt⟩ := hbefore 1 (by omega) g hg
    obtain rfl : 7 = c := Option.some.inj hc
    rw [hkind] at hlt
    exact absurd hlt (by decide)

end Mender.Variant
