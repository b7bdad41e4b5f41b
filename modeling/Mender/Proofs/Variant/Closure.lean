import Mender.Proofs.Hotspot.Rewrite
import Mender.Proofs.Variant.Identity
import Mender.Variant.Enumeration

namespace Mender.Hotspot.Template

theorem visit_congr {t t' : Template} (h : ∀ id, t.childrenOf id = t'.childrenOf id)
    (stack : List Pending) : t.visit stack = t'.visit stack := by
  induction stack using visit.induct t with
  | case1 => rw [visit, visit]
  | case2 p stack ih =>
    have hbelow : t.below p = t'.below p := by rw [below, below, h]
    rw [visit, visit, ih, hbelow]

end Mender.Hotspot.Template

namespace Mender.Variant

open Syntax Hotspot

namespace Assignment

section Mutate

variable (a : Assignment) (k : String) (s : Option Span)

theorem kind_rewrite (id : Nat) (kind : Kind) (n : Node) :
    (a.rewrite id kind n).kind = n.kind ∨
      (a.rewrite id kind n).kind = "parenthesized_statements" := by
  rw [rewrite]
  cases a.alternative? id kind with
  | none => exact Or.inl rfl
  | some alt =>
    change (alt.apply n).kind = _ ∨ (alt.apply n).kind = _
    by_cases hneg : alt = .negated
    · subst hneg
      exact Or.inr rfl
    · rw [Alternative.apply_eq_update hneg]
      exact Or.inl rfl

theorem hasBlock_mutate (next : Nat) (cs : Children) :
    Kind.hasBlock ⟨k, s, a.mutate next cs⟩ = Kind.hasBlock ⟨k, s, cs⟩ := by
  induction cs generalizing next with
  | nil => rfl
  | token f t rest ih => simp only [mutate, Kind.hasBlock_token, ih]
  | hole f i rest ih => simp only [mutate, Kind.hasBlock_hole, ih]
  | node f k' s' below rest _ ih =>
    rw [mutate_node, Children.cons, Kind.hasBlock_node, Kind.hasBlock_node, ih]
    cases h : Kind.of? ⟨k', s', below⟩ with
    | none => simp only [mutated, h, Node.update]
    | some kind =>
      obtain ⟨hblock, hdo⟩ := Kind.not_block_of_of? h
      simp only [mutated, h, Node.update]
      rcases a.kind_rewrite (next + hotspotCount below) kind ⟨k', s', a.mutate next below⟩
        with hk | hk
      · rw [hk]
      · simp [hk, hblock, hdo]

theorem of?_mutate (next : Nat) (cs : Children) :
    Kind.of? ⟨k, s, a.mutate next cs⟩ = Kind.of? ⟨k, s, cs⟩ := by
  apply Kind.of?_congr
  · rfl
  · exact fun name => a.fieldToken?_mutate name next cs
  · exact a.hasBlock_mutate k s next cs

theorem hasHoles_mutate (next : Nat) (cs : Children) :
    (a.mutate next cs).hasHoles = cs.hasHoles := by
  induction cs generalizing next with
  | nil => rfl
  | token f t rest ih => exact ih next
  | hole f i rest => rfl
  | node f k s below rest ihb ihr =>
    rw [mutate_node, Children.cons, Children.hasHoles, Children.hasHoles, ihr]
    congr 1
    cases h : Kind.of? ⟨k, s, below⟩ with
    | none =>
      simp only [mutated, h]
      exact ihb next
    | some kind =>
      simp only [mutated, h, rewrite]
      cases a.alternative? (next + hotspotCount below) kind with
      | none => exact ihb next
      | some alt => exact (alt.hasHoles_apply _).trans (ihb next)

theorem mutate_swapToken (name : String) (new : Token) (next : Nat) (cs : Children) :
    a.mutate next (cs.swapToken name new) = (a.mutate next cs).swapToken name new := by
  induction cs generalizing next with
  | nil => rfl
  | token f t rest ih => by_cases hf : f = some name <;> simp [mutate, hf, ih]
  | hole f i rest ih => simp [mutate, ih]
  | node f k s below rest _ ih => simp [mutate_node, Children.cons, ih]

theorem mutate_swap (alt : Alternative) (next : Nat) (cs : Children) :
    a.mutate next (alt.swap cs) = alt.swap (a.mutate next cs) := by
  cases alt with
  | operator | method => exact a.mutate_swapToken _ _ next cs
  | unchanged | negated => rfl

end Mutate

def Retunes (a : Assignment) (t : Template) : Prop :=
  ∀ id h, t.hotspot? id = some h → ∃ alt, a.alternative? id h.kind = some alt ∧ alt ≠ .negated

def retune (a : Assignment) (next : Nat) : List Hotspot → List Hotspot
  | [] => []
  | h :: hs => { h with node := a.rewrite next h.kind h.node } :: a.retune (next + 1) hs

theorem retune_append (a : Assignment) (next : Nat) (hs gs : List Hotspot) :
    a.retune next (hs ++ gs) = a.retune next hs ++ a.retune (next + hs.length) gs := by
  induction hs generalizing next with
  | nil => rfl
  | cons h hs ih =>
    rw [List.cons_append, retune, retune, ih, List.cons_append, List.length_cons, Nat.add_assoc,
      Nat.add_comm 1]

theorem length_retune (a : Assignment) (next : Nat) (hs : List Hotspot) :
    (a.retune next hs).length = hs.length := by
  induction hs generalizing next with
  | nil => rfl
  | cons h hs ih => rw [retune, List.length_cons, ih, List.length_cons]

theorem getElem?_retune (a : Assignment) (next : Nat) (hs : List Hotspot) (i : Nat) :
    (a.retune next hs)[i]? =
      hs[i]?.map fun h => { h with node := a.rewrite (next + i) h.kind h.node } := by
  induction hs generalizing next i with
  | nil => rfl
  | cons h hs ih =>
    cases i with
    | zero => rfl
    | succ i =>
      rw [retune, List.getElem?_cons_succ, List.getElem?_cons_succ, ih, Nat.add_assoc,
        Nat.add_comm 1]

theorem mem_of_alternative? {a : Assignment} {id : Nat} {k : Kind} {alt : Alternative}
    (h : a.alternative? id k = some alt) : alt ∈ k.alternatives := by
  obtain ⟨c, -, hget⟩ := Option.bind_eq_some_iff.mp h
  exact List.mem_of_getElem? hget

theorem hotspotCount_of_retune {a : Assignment} {next : Nat} {cs cs' : Children}
    (h : (cut next cs').hotspots = a.retune next (cut next cs).hotspots) :
    hotspotCount cs' = hotspotCount cs := by
  rw [← length_cut next, h, length_retune, length_cut]

theorem rewrite_eq {a : Assignment} {id : Nat} {k : Kind} {alt : Alternative}
    (h : a.alternative? id k = some alt) (n : Node) : a.rewrite id k n = alt.apply n := by
  rw [rewrite, h]
  rfl

section Retunes

variable {a : Assignment} {t : Template} {next : Nat}

theorem mutate_plain {a : Assignment} {f : Option String} {k : String} {s : Option Span}
    {below : Children} (h : Kind.of? ⟨k, s, below⟩ = none) (rest : Children) :
    a.mutate next (.node f k s below rest) =
      .node f k s (a.mutate next below) (a.mutate (next + hotspotCount below) rest) := by
  simp only [mutate, h, Children.cons]

theorem mutate_match (ha : a.Retunes t) (f : Option String) {k : String} {s : Option Span}
    {below : Children} (rest : Children) {kind : Kind} {top : List Nat} {captured : Node}
    (h : Kind.of? ⟨k, s, below⟩ = some kind)
    (hid : t.hotspot? (next + hotspotCount below) = some ⟨kind, captured, top⟩) :
    ∃ alt, a.alternative? (next + hotspotCount below) kind = some alt ∧ alt ≠ .negated ∧
      Kind.of? ⟨k, s, alt.swap (a.mutate next below)⟩ = some kind ∧
      a.mutate next (.node f k s below rest) = .node f k s (alt.swap (a.mutate next below))
        (a.mutate (next + hotspotCount below + 1) rest) := by
  obtain ⟨alt, halt, hkeep⟩ := ha _ _ hid
  refine ⟨alt, halt, hkeep, ?_, ?_⟩
  · have hof := Kind.of?_apply ((a.of?_mutate k s next below).trans h) (mem_of_alternative? halt)
      hkeep
    rwa [Alternative.apply_eq_update hkeep] at hof
  · simp only [mutate, h, rewrite_eq halt, Alternative.apply_eq_update hkeep]
    rfl

theorem cut_mutate (ha : a.Retunes t) {cs : Children}
    (hst : t.Stores next (cut next cs).hotspots) :
    cut next (a.mutate next cs) =
      ⟨(cut next cs).children, a.retune next (cut next cs).hotspots, (cut next cs).top⟩ := by
  induction cs generalizing next with
  | nil => rfl
  | token f u rest ih => simp only [mutate, cut, ih hst]
  | hole f i rest ih => simp only [mutate, cut, ih hst]
  | node f k s below rest ihb ihr =>
    cases h : Kind.of? ⟨k, s, below⟩ with
    | none =>
      obtain ⟨hb, hr⟩ := Template.stores_plain h hst
      have hof := (a.of?_mutate k s next below).trans h
      have hbelow := ihb hb
      have hcount := hotspotCount_of_retune (congrArg Cut.hotspots hbelow)
      rw [mutate_plain h, cut_plain hof, cut_plain h]
      simp only [hcount, hbelow, ihr hr, retune_append, length_cut]
    | some kind =>
      obtain ⟨hb, hid, hr⟩ := Template.stores_match h hst
      obtain ⟨alt, halt, hkeep, hof, hmutate⟩ := mutate_match ha f rest h hid
      have hbelow := ihb hb
      have hcount := hotspotCount_of_retune (congrArg Cut.hotspots hbelow)
      rw [hmutate, cut_match hof, cut_match h]
      simp only [hotspotCount_swap, cut_swap, hcount, hbelow, ihr hr, retune_append, retune,
        length_cut, rewrite_eq halt, Alternative.apply_eq_update hkeep]
      rfl

theorem Retunes.hotspotCount_mutate (ha : a.Retunes t) {cs : Children}
    (hst : t.Stores next (cut next cs).hotspots) :
    hotspotCount (a.mutate next cs) = hotspotCount cs :=
  hotspotCount_of_retune (congrArg Cut.hotspots (cut_mutate ha hst))

theorem mutate_mutate (ha : a.Retunes t) {b : Assignment}
    (hb : ∀ id h, t.hotspot? id = some h → (b.alternative? id h.kind).isSome = true)
    {cs : Children} (hst : t.Stores next (cut next cs).hotspots) :
    b.mutate next (a.mutate next cs) = b.mutate next cs := by
  induction cs generalizing next with
  | nil => rfl
  | token f u rest ih => simp only [mutate, ih hst]
  | hole f i rest ih => simp only [mutate, ih hst]
  | node f k s below rest ihb ihr =>
    cases h : Kind.of? ⟨k, s, below⟩ with
    | none =>
      obtain ⟨hbs, hr⟩ := Template.stores_plain h hst
      have hof := (a.of?_mutate k s next below).trans h
      rw [mutate_plain h, mutate_plain hof, mutate_plain h, ha.hotspotCount_mutate hbs, ihb hbs,
        ihr hr]
    | some kind =>
      obtain ⟨hbs, hid, hr⟩ := Template.stores_match h hst
      obtain ⟨alt, halt, hkeep, hof, hmutate⟩ := mutate_match ha f rest h hid
      obtain ⟨alt', halt'⟩ := Option.isSome_iff_exists.mp (hb _ _ hid)
      have hlast : b.rewrite (next + hotspotCount below) kind
          ⟨k, s, alt.swap (b.mutate next below)⟩ =
          b.rewrite (next + hotspotCount below) kind ⟨k, s, b.mutate next below⟩ := by
        have habsorb := Kind.apply_apply (mem_of_alternative? halt) hkeep
          (mem_of_alternative? halt') ⟨k, s, b.mutate next below⟩
        rw [Alternative.apply_eq_update hkeep] at habsorb
        rw [rewrite_eq halt', rewrite_eq halt']
        exact habsorb
      rw [hmutate]
      simp only [mutate, hof, h, hotspotCount_swap, ha.hotspotCount_mutate hbs, mutate_swap,
        ihb hbs, ihr hr, hlast]

end Retunes

end Assignment

section Detect

variable {T : Node} {a : Assignment}

theorem retunes_of_fits (ha : a.Fits (detect T))
    (hkeep : ∀ id h, (detect T).hotspot? id = some h → h.kind = .predicate →
      a.choice? id = some 0) : a.Retunes (detect T) := by
  intro id h hid
  obtain ⟨alt, halt⟩ := Option.isSome_iff_exists.mp (Assignment.fits_detect.mp ha id h hid)
  refine ⟨alt, halt, ?_⟩
  rintro rfl
  have table (k : Kind) : .negated ∈ k.alternatives → k = .predicate := by cases k <;> decide
  have hk := table h.kind (Assignment.mem_of_alternative? halt)
  rw [Assignment.alternative?, hkeep id h hid hk, hk] at halt
  cases halt

theorem detect_variant (ha : a.Retunes (detect T)) :
    detect (a.variant T) =
      ⟨(detect T).root, a.retune 0 (detect T).hotspots, (detect T).roots⟩ := by
  have hcut := Assignment.cut_mutate ha (Template.stores_detect T)
  simp only [detect, Assignment.variant, Node.update, hcut]

theorem hotspot?_variant (ha : a.Retunes (detect T)) (id : Nat) :
    (detect (a.variant T)).hotspot? id = ((detect T).hotspot? id).map fun h =>
      { h with node := a.rewrite id h.kind h.node } := by
  rw [detect_variant ha, Template.hotspot?, Assignment.getElem?_retune, Nat.zero_add]
  rfl

theorem childrenOf_variant (ha : a.Retunes (detect T)) (id : Nat) :
    (detect (a.variant T)).childrenOf id = (detect T).childrenOf id := by
  rw [Template.childrenOf, Template.childrenOf, hotspot?_variant ha]
  cases (detect T).hotspot? id <;> rfl

theorem length_variant (ha : a.Retunes (detect T)) :
    (detect (a.variant T)).hotspots.length = (detect T).hotspots.length := by
  rw [detect_variant ha, Assignment.length_retune]

theorem preorderWithDepth_variant (ha : a.Retunes (detect T)) :
    (detect (a.variant T)).preorderWithDepth = (detect T).preorderWithDepth := by
  have hroots : (detect (a.variant T)).roots = (detect T).roots := by rw [detect_variant ha]
  rw [Template.preorderWithDepth, Template.preorderWithDepth, hroots, length_variant ha]
  exact Template.visit_congr (childrenOf_variant ha) _

theorem enumerate_variant (ha : a.Retunes (detect T)) :
    enumerate (detect (a.variant T)) = enumerate (detect T) := by
  have hwidth : (fun id => (((detect (a.variant T)).hotspot? id).map (·.kind.width)).getD 0) =
      fun id => (((detect T).hotspot? id).map (·.kind.width)).getD 0 := by
    funext id
    rw [hotspot?_variant ha, Option.map_map]
    rfl
  rw [enumerate, enumerate, Template.preorder, preorderWithDepth_variant ha, length_variant ha,
    hwidth]
  rfl

theorem fault?_variant (ha : a.Retunes (detect T)) (b : Assignment) :
    b.fault? (detect (a.variant T)) = b.fault? (detect T) := by
  funext id
  rw [Assignment.fault?, Assignment.fault?, hotspot?_variant ha]
  cases (detect T).hotspot? id <;> rfl

theorem firstFault?_variant (ha : a.Retunes (detect T)) (b : Assignment) :
    b.firstFault? (detect (a.variant T)) 0 (detect (a.variant T)).hotspots.length =
      b.firstFault? (detect T) 0 (detect T).hotspots.length := by
  rw [Assignment.firstFault?, fault?_variant ha, length_variant ha, Assignment.firstFault?]

theorem variant_variant (ha : a.Retunes (detect T)) {b : Assignment} (hb : b.Fits (detect T)) :
    b.variant (a.variant T) = b.variant T :=
  congrArg T.update
    (Assignment.mutate_mutate ha (Assignment.fits_detect.mp hb) (Template.stores_detect T))

theorem build_variant (hT : T.hasHoles = false) (ha : a.Retunes (detect T)) (b : Assignment) :
    build (detect (a.variant T)) b = build (detect T) b := by
  have hfree : (a.variant T).hasHoles = false := (a.hasHoles_mutate 0 T.children).trans hT
  rw [build_eq hfree, build_eq hT, firstFault?_variant ha]
  cases hfirst : b.firstFault? (detect T) 0 (detect T).hotspots.length with
  | some e => rfl
  | none =>
    rw [variant_variant ha (Assignment.fits_iff_no_fault.mpr hfirst)]

theorem identity?_variant (ha : a.Retunes (detect T)) {id : Nat} {h : Hotspot}
    (hid : (detect (a.variant T)).hotspot? id = some h) (hk : h.kind ≠ .predicate) :
    h.kind.identity? h.node = a.choice? id := by
  rw [hotspot?_variant ha, Option.map_eq_some_iff] at hid
  obtain ⟨g, hg, rfl⟩ := hid
  obtain ⟨alt, halt, hkeep⟩ := ha id g hg
  obtain ⟨c, hc, hget⟩ := Option.bind_eq_some_iff.mp halt
  change g.kind ≠ .predicate at hk
  change g.kind.identity? (a.rewrite id g.kind g.node) = _
  rw [Kind.alternatives_eq hk, List.getElem?_map, Option.map_eq_some_iff] at hget
  obtain ⟨s, hs, rfl⟩ := hget
  have haccepts := Kind.accepts_of_of? (of?_captured (List.mem_of_getElem? hg)).1
  rw [Assignment.rewrite_eq halt, hc]
  exact Kind.identity?_of_selector hk (Kind.selector?_rewrite hk haccepts s) hs

/-- A variant that negates nothing has the hotspots of its program, with the same ids, families and
nesting, each at the alternative that was chosen for it. Every assignment builds the same from
there, so a search that starts again explores the same variants in the same order. -/
theorem detect_build (hT : T.hasHoles = false) (ha : a.Fits (detect T))
    (hkeep : ∀ id h, (detect T).hotspot? id = some h → h.kind = .predicate →
      a.choice? id = some 0) :
    ∃ T', build (detect T) a = .ok T' ∧
      let t := detect T
      let t' := detect T'
      t'.root = t.root ∧ t'.roots = t.roots ∧
      (∀ id, (t'.hotspot? id).map (fun h => (h.kind, h.children)) =
        (t.hotspot? id).map fun h => (h.kind, h.children)) ∧
      t'.preorderWithDepth = t.preorderWithDepth ∧
      (∀ id h, t'.hotspot? id = some h → h.kind ≠ .predicate →
        h.kind.identity? h.node = a.choice? id) ∧
      (∀ b, build t' b = build t b) ∧ enumerate t' = enumerate t := by
  have hretunes := retunes_of_fits ha hkeep
  refine ⟨a.variant T, build_eq_variant hT ha, ?_, ?_, fun id => ?_,
    preorderWithDepth_variant hretunes, fun id h => identity?_variant hretunes,
    build_variant hT hretunes, enumerate_variant hretunes⟩
  · rw [detect_variant hretunes]
  · rw [detect_variant hretunes]
  · rw [hotspot?_variant hretunes, Option.map_map]
    rfl

end Detect

theorem detect_build_nested :
    nested.hasHoles = false ∧ Assignment.Fits ⟨[some 3, some 1, some 0]⟩ (detect nested) ∧
      ∃ T', build (detect nested) ⟨[some 3, some 1, some 0]⟩ = .ok T' ∧
        (detect T').preorderWithDepth = [(2, 0), (1, 1), (0, 2)] ∧
        ∀ b, build (detect T') b = build (detect nested) b := by
  have hfits : Assignment.Fits ⟨[some 3, some 1, some 0]⟩ (detect nested) := by decide +kernel
  have hkeep : ∀ id < (detect nested).hotspots.length, ∀ h ∈ (detect nested).hotspot? id,
      h.kind = .predicate → (Assignment.mk [some 3, some 1, some 0]).choice? id = some 0 := by
    decide +kernel
  obtain ⟨T', hbuild, -, -, -, hwalk, -, hsame, -⟩ := detect_build (T := nested) rfl hfits
    fun id h hid => hkeep id (List.getElem?_eq_some_iff.mp hid).1 h hid
  have hnested : (detect nested).preorderWithDepth = [(2, 0), (1, 1), (0, 2)] := by
    rw [Template.preorderWithDepth_detect]
    decide +kernel
  exact ⟨rfl, hfits, T', hbuild, hwalk.trans hnested, hsame⟩

end Mender.Variant
