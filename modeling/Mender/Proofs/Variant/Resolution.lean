import Mathlib.Data.Finset.Card
import Mathlib.Logic.Relation
import Mender.Proofs.Hotspot.Conflict
import Mender.Proofs.Hotspot.Rewrite
import Mender.Proofs.Variant.Mutation

/-!
Templates whose holes stand anywhere, in no forest and on no list of children. As long as no
hotspot is referred to from within itself, the hotspots have one resolution that rebuilds every
node, and building gives just that: it stops nowhere early, and what it skips holds no hole.
-/

namespace Mender.Hotspot.Template

open Syntax

def holesOf (t : Template) (id : Nat) : List Nat :=
  match t.hotspot? id with
  | some h => h.node.children.holes
  | none => []

def Refers (t : Template) (i j : Nat) : Prop := j ∈ t.holesOf i

def Reaches (t : Template) : Nat → Nat → Prop := Relation.ReflTransGen t.Refers

def Acyclic (t : Template) : Prop := ∀ id, ¬Relation.TransGen t.Refers id id

section Refers

variable {t : Template} {i j : Nat}

theorem refers_of_hotspot? {h : Hotspot} (hi : t.hotspot? i = some h) :
    t.Refers i j ↔ j ∈ h.node.children.holes := by
  rw [Refers, holesOf, hi]

theorem lt_length_of_refers (hij : t.Refers i j) : i < t.hotspots.length := by
  cases hi : t.hotspot? i with
  | none =>
    rw [Refers, holesOf, hi] at hij
    cases hij
  | some h => exact (List.getElem?_eq_some_iff.mp hi).1

theorem acyclic_of_rank (rank : Nat → Nat) (h : ∀ i j, t.Refers i j → rank j < rank i) :
    t.Acyclic := by
  have hlt : ∀ i j, Relation.TransGen t.Refers i j → rank j < rank i := by
    intro i j hij
    induction hij with
    | single hj => exact h _ _ hj
    | tail _ hk ih => exact (h _ _ hk).trans ih
  intro id hid
  exact Nat.lt_irrefl _ (hlt id id hid)

theorem acyclic_detect {T : Node} (hT : T.hasHoles = false) : (detect T).Acyclic := by
  apply acyclic_of_rank id
  intro i j hij
  have hi : (detect T).hotspot? i = some _ := List.getElem?_eq_getElem (lt_length_of_refers hij)
  rw [refers_of_hotspot? hi, holes_of_hotspot hT (List.getElem_mem _),
    ← childrenOf_of_hotspot? hi] at hij
  exact lt_of_mem_childrenOf hij

end Refers

open scoped Classical in
noncomputable def reach (t : Template) (id : Nat) : Finset Nat :=
  (Finset.range t.hotspots.length).filter (t.Reaches id)

section Reach

variable {t : Template} {i j : Nat}

theorem mem_reach : j ∈ t.reach i ↔ j < t.hotspots.length ∧ t.Reaches i j := by
  classical
  rw [reach, Finset.mem_filter, Finset.mem_range]

theorem card_reach_le : (t.reach i).card ≤ t.hotspots.length := by
  have hsub : t.reach i ⊆ Finset.range t.hotspots.length := by
    intro k hk
    exact Finset.mem_range.mpr (mem_reach.mp hk).1
  have hle := Finset.card_le_card hsub
  rwa [Finset.card_range] at hle

theorem card_reach_pos {h : Hotspot} (hi : t.hotspot? i = some h) : 0 < (t.reach i).card := by
  have hlt : i < t.hotspots.length := (List.getElem?_eq_some_iff.mp hi).1
  exact Finset.card_pos.mpr ⟨i, mem_reach.mpr ⟨hlt, .refl⟩⟩

theorem card_reach_lt (ht : t.Acyclic) (hij : t.Refers i j) :
    (t.reach j).card < (t.reach i).card := by
  have hsub : t.reach j ⊆ t.reach i := by
    intro k hk
    rw [mem_reach] at hk ⊢
    exact ⟨hk.1, .head hij hk.2⟩
  have hmem : i ∈ t.reach i := mem_reach.mpr ⟨lt_length_of_refers hij, .refl⟩
  have hnot : i ∉ t.reach j := by
    intro hi
    exact ht i (.head' hij (mem_reach.mp hi).2)
  apply Finset.card_lt_card
  exact (Finset.ssubset_iff_of_subset hsub).mpr ⟨i, hmem, hnot⟩

end Reach

end Mender.Hotspot.Template

namespace Mender.Variant

open Syntax Hotspot

def rebuild (fill : Nat → Except BuildError Node) : Children → Except BuildError Children
  | .nil => .ok .nil
  | .token f t rest => do return .token f t (← rebuild fill rest)
  | .hole f i rest => do
    let n ← fill i
    return .node f n.kind n.span n.children (← rebuild fill rest)
  | .node f k s below rest => do
    let below ← rebuild fill below
    return .node f k s below (← rebuild fill rest)

def rebuildHotspot (t : Template) (a : Assignment) (inner : Nat → Except BuildError Node)
    (id : Nat) : Except BuildError Node :=
  match t.hotspot? id with
  | none => .error (.incomplete id)
  | some h => do
    let children ← rebuild inner h.node.children
    match a.choice? id with
    | none => .error (.incomplete id)
    | some choice =>
      match h.kind.alternatives[choice]? with
      | none => .error (.invalidChoice id choice h.kind.width)
      | some alternative => return alternative.apply (h.node.update children)

section Rebuild

variable {fill fill' : Nat → Except BuildError Node} {cs cs' : Children}

theorem fillHoles_eq_rebuild (fill : Nat → Except BuildError Node) (cs : Children) :
    fillHoles fill cs = rebuild fill cs := by
  induction cs with
  | nil => rfl
  | token f t rest ih => rw [fillHoles, rebuild, ih]
  | hole f i rest ih => rw [fillHoles, rebuild, ih]
  | node f k s below rest ihb ihr => rw [fillHoles_node, rebuild, ihb, ihr]

theorem rebuild_congr (h : ∀ i ∈ cs.holes, fill i = fill' i) :
    rebuild fill cs = rebuild fill' cs := by
  induction cs with
  | nil => rfl
  | token f t rest ih => rw [rebuild, rebuild, ih h]
  | hole f i rest ih =>
    rw [Children.holes, List.forall_mem_cons] at h
    rw [rebuild, rebuild, h.1, ih h.2]
  | node f k s below rest ihb ihr =>
    rw [Children.holes, List.forall_mem_append] at h
    rw [rebuild, rebuild, ihb h.1, ihr h.2]

theorem holes_of_rebuild (h : rebuild fill cs = .ok cs') :
    (∀ i ∈ cs.holes, ∃ n, fill i = .ok n) ∧
      ((∀ i ∈ cs.holes, ∀ n, fill i = .ok n → n.hasHoles = false) → cs'.hasHoles = false) := by
  induction cs generalizing cs' with
  | nil =>
    obtain rfl := Except.ok.inj h
    simp [Children.holes, Children.hasHoles]
  | token f t rest ih =>
    rw [rebuild] at h
    cases hr : rebuild fill rest with
    | error e => rw [hr] at h; cases h
    | ok rest' =>
      rw [hr] at h
      obtain rfl : .token f t rest' = cs' := Except.ok.inj h
      obtain ⟨hall, hfree⟩ := ih hr
      exact ⟨hall, hfree⟩
  | hole f i rest ih =>
    rw [rebuild] at h
    cases hi : fill i with
    | error e => rw [hi] at h; cases h
    | ok n =>
      cases hr : rebuild fill rest with
      | error e => rw [hi, hr] at h; cases h
      | ok rest' =>
        rw [hi, hr] at h
        obtain rfl := Except.ok.inj h
        obtain ⟨hall, hfree⟩ := ih hr
        rw [Children.holes]
        constructor
        · rw [List.forall_mem_cons]
          exact ⟨⟨n, hi⟩, hall⟩
        · intro hinner
          rw [List.forall_mem_cons] at hinner
          have hn : n.children.hasHoles = false := hinner.1 n hi
          simp [Children.hasHoles, hn, hfree hinner.2]
  | node f k s below rest ihb ihr =>
    rw [rebuild] at h
    cases hb : rebuild fill below with
    | error e => rw [hb] at h; cases h
    | ok below' =>
      cases hr : rebuild fill rest with
      | error e => rw [hb, hr] at h; cases h
      | ok rest' =>
        rw [hb, hr] at h
        obtain rfl := Except.ok.inj h
        obtain ⟨hallb, hfreeb⟩ := ihb hb
        obtain ⟨hallr, hfreer⟩ := ihr hr
        rw [Children.holes]
        constructor
        · rw [List.forall_mem_append]
          exact ⟨hallb, hallr⟩
        · intro hinner
          rw [List.forall_mem_append] at hinner
          simp [Children.hasHoles, hfreeb hinner.1, hfreer hinner.2]

end Rebuild

section Resolve

variable {t : Template} {a b : Assignment} {id levels : Nat}

theorem rebuildHotspot_congr {inner inner' : Nat → Except BuildError Node}
    (h : ∀ j, t.Refers id j → inner j = inner' j) :
    rebuildHotspot t a inner id = rebuildHotspot t a inner' id := by
  rw [rebuildHotspot, rebuildHotspot]
  cases hid : t.hotspot? id with
  | none => rfl
  | some g =>
    have hfill : rebuild inner g.node.children = rebuild inner' g.node.children := by
      apply rebuild_congr
      intro j hj
      exact h j ((Template.refers_of_hotspot? hid).mpr hj)
    dsimp only
    rw [hfill]

theorem resolve_succ (t : Template) (a : Assignment) (levels id : Nat) :
    resolve t a (levels + 1) id = rebuildHotspot t a (resolve t a levels) id := by
  rw [resolve, rebuildHotspot]
  cases t.hotspot? id with
  | none => rfl
  | some h =>
    exact congrArg (fun r : Except BuildError Children => r >>= _)
      (fillHoles_eq_rebuild (resolve t a levels) h.node.children)

/-- More levels than an id reaches hotspots make no difference. -/
theorem resolve_of_reach (ht : t.Acyclic) {m n : Nat} (hm : (t.reach id).card ≤ m)
    (hn : (t.reach id).card ≤ n) : resolve t a m id = resolve t a n id := by
  induction hk : (t.reach id).card using Nat.strong_induction_on generalizing m n id with
  | h k ih =>
    cases hid : t.hotspot? id with
    | none => cases m <;> cases n <;> simp [resolve, hid]
    | some h =>
      have hpos := Template.card_reach_pos hid
      obtain ⟨m, rfl⟩ : ∃ l, m = l + 1 := ⟨m - 1, by omega⟩
      obtain ⟨n, rfl⟩ : ∃ l, n = l + 1 := ⟨n - 1, by omega⟩
      rw [resolve_succ, resolve_succ]
      apply rebuildHotspot_congr
      intro j hj
      have hless := Template.card_reach_lt ht hj
      exact ih (t.reach j).card (by omega) (by omega) (by omega) rfl

theorem resolveHotspot_eq (ht : t.Acyclic) (a : Assignment) (id : Nat) :
    resolveHotspot t a id = rebuildHotspot t a (resolveHotspot t a) id := by
  have hone : resolve t a t.hotspots.length id = resolve t a (t.hotspots.length + 1) id :=
    resolve_of_reach ht Template.card_reach_le (Template.card_reach_le.trans (Nat.le_succ _))
  exact hone.trans (resolve_succ t a _ id)

theorem eq_resolveHotspot_iff (ht : t.Acyclic) {plain : Nat → Except BuildError Node} :
    (∀ id, plain id = rebuildHotspot t a plain id) ↔ plain = resolveHotspot t a := by
  constructor
  · intro hplain
    funext id
    induction hk : (t.reach id).card using Nat.strong_induction_on generalizing id with
    | h k ih =>
      rw [hplain, resolveHotspot_eq ht]
      apply rebuildHotspot_congr
      intro j hj
      have hless := Template.card_reach_lt ht hj
      exact ih (t.reach j).card (by omega) j rfl
  · rintro rfl
    exact resolveHotspot_eq ht a

theorem resolve_agree (h : ∀ j, t.Reaches id j → a.choice? j = b.choice? j) :
    resolve t a levels id = resolve t b levels id := by
  induction levels generalizing id with
  | zero => rw [resolve, resolve]
  | succ levels ih =>
    have hinner : rebuildHotspot t a (resolve t a levels) id =
        rebuildHotspot t a (resolve t b levels) id := by
      apply rebuildHotspot_congr
      intro j hj
      apply ih
      intro k hk
      exact h k (.head hj hk)
    rw [resolve_succ, resolve_succ, hinner, rebuildHotspot, rebuildHotspot, h id .refl]

end Resolve

def AppliesWhole (t : Template) (a : Assignment) (id : Nat) : Prop :=
  ∃ h children alternative, t.hotspot? id = some h ∧
    rebuild (resolveHotspot t a) h.node.children = .ok children ∧
    (h.node.update children).hasHoles = false ∧ a.alternative? id h.kind = some alternative ∧
    resolveHotspot t a id = .ok (alternative.apply (h.node.update children))

section Whole

variable {t : Template} {a : Assignment} {id : Nat} {n : Node}

theorem exists_of_rebuildHotspot {inner : Nat → Except BuildError Node}
    (h : rebuildHotspot t a inner id = .ok n) : ∃ g children alternative,
      t.hotspot? id = some g ∧ rebuild inner g.node.children = .ok children ∧
      a.alternative? id g.kind = some alternative ∧
      n = alternative.apply (g.node.update children) := by
  rw [rebuildHotspot] at h
  cases hid : t.hotspot? id with
  | none => rw [hid] at h; cases h
  | some g =>
    rw [hid] at h
    dsimp only at h
    cases hr : rebuild inner g.node.children with
    | error e => rw [hr] at h; cases h
    | ok children =>
      rw [hr] at h
      change (match a.choice? id with
        | none => Except.error (BuildError.incomplete id)
        | some choice => match g.kind.alternatives[choice]? with
          | none => .error (.invalidChoice id choice g.kind.width)
          | some alternative => .ok (alternative.apply (g.node.update children))) = .ok n at h
      split at h
      · cases h
      · next choice hc =>
        split at h
        · cases h
        · next alternative halt =>
          refine ⟨g, children, alternative, rfl, hr, ?_, (Except.ok.inj h).symm⟩
          rw [Assignment.alternative?, hc, Option.bind_some, halt]

theorem hasHoles_resolveHotspot (ht : t.Acyclic) (h : resolveHotspot t a id = .ok n) :
    n.hasHoles = false := by
  induction hk : (t.reach id).card using Nat.strong_induction_on generalizing id n with
  | h k ih =>
    rw [resolveHotspot_eq ht] at h
    obtain ⟨g, children, alternative, hid, hr, -, rfl⟩ := exists_of_rebuildHotspot h
    rw [Alternative.hasHoles_apply]
    apply (holes_of_rebuild hr).2
    intro j hj m hm
    have hless := Template.card_reach_lt ht ((Template.refers_of_hotspot? hid).mpr hj)
    exact ih (t.reach j).card (by omega) hm rfl

theorem appliesWhole_of_reaches (ht : t.Acyclic) (h : resolveHotspot t a id = .ok n) {j : Nat}
    (hj : t.Reaches id j) : AppliesWhole t a j := by
  induction hj using Relation.ReflTransGen.head_induction_on generalizing n with
  | refl =>
    have hstep := h
    rw [resolveHotspot_eq ht] at hstep
    obtain ⟨g, children, alternative, hid, hr, halt, rfl⟩ := exists_of_rebuildHotspot hstep
    refine ⟨g, children, alternative, hid, hr, ?_, halt, h⟩
    rw [← Alternative.hasHoles_apply alternative]
    exact hasHoles_resolveHotspot ht h
  | head hik _ ih =>
    rw [resolveHotspot_eq ht] at h
    obtain ⟨g, children, -, hid, hr, -, -⟩ := exists_of_rebuildHotspot h
    obtain ⟨m, hm⟩ := (holes_of_rebuild hr).1 _ ((Template.refers_of_hotspot? hid).mp hik)
    exact ih hm

theorem build_eq_rebuild (t : Template) (a : Assignment) :
    build t a = (rebuild (resolveHotspot t a) t.root.children).map t.root.update := by
  rw [build, fillHoles_eq_rebuild]
  cases rebuild (resolveHotspot t a) t.root.children <;> rfl

/-- Building is the plain resolution that makes every node anew, errors included. What it gives has
no hole, nor has any node that an alternative is applied to, and it depends on the choices alone
that the root reaches. -/
theorem build_plain (ht : t.Acyclic) (a : Assignment) :
    (∀ plain : Nat → Except BuildError Node,
      (∀ id, plain id = rebuildHotspot t a plain id) ↔ plain = resolveHotspot t a) ∧
    build t a = (rebuild (resolveHotspot t a) t.root.children).map t.root.update ∧
    (∀ id n, resolveHotspot t a id = .ok n →
      n.hasHoles = false ∧ ∀ j, t.Reaches id j → AppliesWhole t a j) ∧
    (∀ n, build t a = .ok n →
      n.hasHoles = false ∧
        ∀ i ∈ t.root.children.holes, ∀ j, t.Reaches i j → AppliesWhole t a j) ∧
    ∀ b : Assignment,
      (∀ i ∈ t.root.children.holes, ∀ j, t.Reaches i j → a.choice? j = b.choice? j) →
        build t a = build t b := by
  refine ⟨fun plain => eq_resolveHotspot_iff ht, build_eq_rebuild t a, ?_, ?_, ?_⟩
  · intro id n h
    exact ⟨hasHoles_resolveHotspot ht h, fun j => appliesWhole_of_reaches ht h⟩
  · intro n h
    rw [build_eq_rebuild] at h
    cases hr : rebuild (resolveHotspot t a) t.root.children with
    | error e => rw [hr] at h; cases h
    | ok children =>
      rw [hr] at h
      obtain rfl : t.root.update children = n := Except.ok.inj h
      obtain ⟨hall, hfree⟩ := holes_of_rebuild hr
      constructor
      · apply hfree
        intro i _ m hm
        exact hasHoles_resolveHotspot ht hm
      · intro i hi j hj
        obtain ⟨m, hm⟩ := hall i hi
        exact appliesWhole_of_reaches ht hm hj
  · intro b hab
    have hfill : rebuild (resolveHotspot t a) t.root.children =
        rebuild (resolveHotspot t b) t.root.children := by
      apply rebuild_congr
      intro i hi
      exact resolve_agree (hab i hi)
    rw [build_eq_rebuild, build_eq_rebuild, hfill]

end Whole

/-- A comparison that stands in the root and in the call next to it. No list of children names any
hotspot, and the last one, which nothing refers to, has a hole that names none. -/
def shared : Template where
  root := ⟨"program", none,
    .hole none 1 <| .token none ⟨";", ";"⟩ <| .hole none 0 .nil⟩
  hotspots :=
    [⟨.comparison, ⟨"binary", none,
        .token (some "left") ⟨"identifier", "x"⟩ <| .token (some "operator") ⟨">", ">"⟩ <|
          .token (some "right") ⟨"integer", "3"⟩ .nil⟩, []⟩,
      ⟨.predicate, ⟨"call", none,
        .node (some "receiver") "parenthesized_statements" none
            (.token none ⟨"(", "("⟩ <| .hole none 0 <| .token none ⟨")", ")"⟩ .nil) <|
          .token (some "operator") ⟨".", "."⟩ <| .token (some "method") ⟨"identifier", "nil?"⟩ .nil⟩,
        []⟩,
      ⟨.equality, ⟨"binary", none, .hole (some "left") 7 .nil⟩, []⟩]
  roots := []

theorem acyclic_shared : shared.Acyclic := by
  apply Template.acyclic_of_rank fun id => if id < 3 then id + 1 else 0
  intro i j hij
  match i with
  | 0 => cases hij
  | 1 =>
    obtain rfl : j = 0 := List.mem_singleton.mp hij
    decide
  | 2 =>
    obtain rfl : j = 7 := List.mem_singleton.mp hij
    decide
  | i + 3 => cases hij

theorem lt_of_reaches_shared {i j : Nat} (hi : i < 2) (hij : shared.Reaches i j) : j < 2 := by
  induction hij with
  | refl => exact hi
  | @tail k l _ hl hk =>
    match k with
    | 0 => cases hl
    | 1 =>
      obtain rfl : l = 0 := List.mem_singleton.mp hl
      decide
    | k + 2 => omega

theorem build_plain_shared :
    shared.Acyclic ∧
      (∃ n, build shared ⟨[some 1, some 1]⟩ = .ok n ∧ n.text = "(!(x>=3).nil?);x>=3" ∧
        n.hasHoles = false ∧ AppliesWhole shared ⟨[some 1, some 1]⟩ 0) ∧
      build shared ⟨[some 1, some 1]⟩ = build shared ⟨[some 1, some 1, some 9]⟩ ∧
      rebuildHotspot shared ⟨[]⟩ (resolveHotspot shared ⟨[]⟩) 2 = .error (.incomplete 7) := by
  obtain ⟨-, -, -, hwhole, hagree⟩ := build_plain acyclic_shared ⟨[some 1, some 1]⟩
  obtain ⟨hempty, -⟩ := build_plain acyclic_shared ⟨[]⟩
  obtain ⟨n, hn, htext⟩ : ∃ n, build shared ⟨[some 1, some 1]⟩ = .ok n ∧
      n.text = "(!(x>=3).nil?);x>=3" := ⟨_, rfl, by decide +kernel⟩
  obtain ⟨hfree, happlied⟩ := hwhole n hn
  refine ⟨acyclic_shared, ⟨n, hn, htext, hfree, happlied 0 ?_ 0 .refl⟩, hagree _ ?_, ?_⟩
  · decide
  · intro i hi j hj
    have hlow : i < 2 := by
      rcases List.mem_cons.mp hi with rfl | hi
      · decide
      · obtain rfl : i = 0 := List.mem_singleton.mp hi
        decide
    match j, lt_of_reaches_shared hlow hj with
    | 0, _ => rfl
    | 1, _ => rfl
  · rw [← (hempty _).mpr rfl 2]
    decide +kernel

end Mender.Variant
