import Mender.Proofs.Variant.Patch

namespace Mender.Variant

open Syntax Hotspot

theorem pieces_token (next : Nat) (mark : Option (Nat × Kind)) (f : Option String) (t : Token)
    (rest : Children) :
    ∃ p mark', pieces next mark (.token f t rest) = p :: pieces next mark' rest ∧
      (p = .kept t.text ∧ mark' = mark ∨
        ∃ id kind, mark = some (id, kind) ∧ p = .selector id kind t.text ∧ mark' = none) := by
  cases mark with
  | none => exact ⟨_, none, rfl, Or.inl ⟨rfl, rfl⟩⟩
  | some m =>
    obtain ⟨id, kind⟩ := m
    by_cases hf : f = some kind.selectorField
    · exact ⟨_, none, by simp [pieces, hf], Or.inr ⟨id, kind, rfl, rfl, rfl⟩⟩
    · exact ⟨_, some (id, kind), by simp [pieces, hf], Or.inl ⟨rfl, rfl⟩⟩

section Owners

/-- The hotspot whose choice a piece shows. A closing place only repeats what the opening shows. -/
def Piece.shows? : Piece → Option Nat
  | kept _ => none
  | selector id _ _ => some id
  | opening id => some id
  | closing _ => none

theorem selector_mem_pieces {next id : Nat} {kind : Kind} {cs : Children} {t : Token}
    (h : cs.fieldToken? kind.selectorField = some t) :
    .selector id kind t.text ∈ pieces next (some (id, kind)) cs := by
  induction cs generalizing next with
  | nil => simp at h
  | token f u rest ih =>
    by_cases hf : f = some kind.selectorField
    · simp only [Children.fieldToken?_token, hf, if_true, Option.some.injEq] at h
      simp [pieces, hf, h]
    · simp only [Children.fieldToken?_token, hf, if_false] at h
      simp [pieces, hf, ih h]
  | hole f i rest ih =>
    by_cases hf : f = some kind.selectorField
    · simp [hf] at h
    · simp only [Children.fieldToken?_hole, hf, if_false] at h
      simp [pieces, ih h]
  | node f k s below rest _ ih =>
    by_cases hf : f = some kind.selectorField
    · simp [hf] at h
    · simp only [Children.fieldToken?_node, hf, if_false] at h
      simp [pieces_node, ih h]

theorem exists_nodePiece {n : Node} {kind : Kind} (hn : Kind.of? n = some kind) (next : Nat) :
    ∃ p ∈ nodePieces next n, p.shows? = some (next + hotspotCount n.children) := by
  by_cases hk : kind = .predicate
  · subst hk
    exact ⟨.opening (next + hotspotCount n.children), by simp [nodePieces, hn], rfl⟩
  · obtain ⟨_, hsel, -⟩ := Kind.selector_of_accepts hk (Kind.accepts_of_of? hn)
    obtain ⟨t, ht, -⟩ := Kind.selector?_eq_some hsel
    rw [nodePieces_selector hn hk]
    exact ⟨_, selector_mem_pieces ht, rfl⟩

theorem exists_below_nodePieces (next : Nat) (n : Node) :
    ∃ mark, ∀ p ∈ pieces next mark n.children, p ∈ nodePieces next n := by
  unfold nodePieces
  split
  · exact ⟨none, fun p hp => hp⟩
  · exact ⟨none, fun p hp => List.mem_cons_of_mem _ (List.mem_append_left _ hp)⟩
  · exact ⟨_, fun p hp => hp⟩

theorem exists_piece {next id : Nat} {cs : Children} (mark : Option (Nat × Kind))
    (hge : next ≤ id) (hlt : id < next + hotspotCount cs) :
    ∃ p ∈ pieces next mark cs, p.shows? = some id := by
  induction cs generalizing next mark with
  | nil => rw [hotspotCount_nil] at hlt; omega
  | token f t rest ih =>
    obtain ⟨q, mark', hpieces, -⟩ := pieces_token next mark f t rest
    obtain ⟨p, hp, hshows⟩ := ih mark' hge hlt
    exact ⟨p, by simp [hpieces, hp], hshows⟩
  | hole f i rest ih =>
    obtain ⟨p, hp, hshows⟩ := ih mark hge hlt
    exact ⟨p, List.mem_cons_of_mem _ hp, hshows⟩
  | node f k s below rest ihb ihr =>
    rw [pieces_node]
    by_cases hbelow : id < next + hotspotCount below
    · obtain ⟨mark', hsub⟩ := exists_below_nodePieces next ⟨k, s, below⟩
      obtain ⟨p, hp, hshows⟩ := ihb mark' hge hbelow
      exact ⟨p, List.mem_append_left _ (hsub p hp), hshows⟩
    · have hrest (next' : Nat) (hid : next' ≤ id) (hend : id < next' + hotspotCount rest) :
          ∃ p ∈ nodePieces next ⟨k, s, below⟩ ++ pieces next' mark rest, p.shows? = some id := by
        obtain ⟨p, hp, hshows⟩ := ihr mark hid hend
        exact ⟨p, List.mem_append_right _ hp, hshows⟩
      cases h : Kind.of? ⟨k, s, below⟩ with
      | none =>
        rw [hotspotCount_plain h] at hlt
        rw [hotspotCount_plain h, hotspotCount_nil]
        exact hrest _ (by omega) (by omega)
      | some kind =>
        rw [hotspotCount_match h] at hlt
        rw [hotspotCount_match h, hotspotCount_nil]
        by_cases hown : id = next + hotspotCount below
        · subst hown
          obtain ⟨p, hp, hshows⟩ := exists_nodePiece h next
          exact ⟨p, List.mem_append_left _ hp, hshows⟩
        · exact hrest _ (by omega) (by omega)

def Piece.Owned (t : Template) : Piece → Prop
  | kept _ => True
  | selector id kind _ => (t.hotspot? id).map Hotspot.kind = some kind ∧ kind ≠ .predicate
  | opening id => (t.hotspot? id).map Hotspot.kind = some .predicate
  | closing id => (t.hotspot? id).map Hotspot.kind = some .predicate

theorem owned_pieces {t : Template} {next : Nat} {mark : Option (Nat × Kind)} {cs : Children}
    (hmark : ∀ id kind, mark = some (id, kind) →
      (t.hotspot? id).map Hotspot.kind = some kind ∧ kind ≠ .predicate)
    (hst : t.Stores next (cut next cs).hotspots) : ∀ p ∈ pieces next mark cs, p.Owned t := by
  have hnone : ∀ id kind, (none : Option (Nat × Kind)) = some (id, kind) →
      (t.hotspot? id).map Hotspot.kind = some kind ∧ kind ≠ .predicate := fun _ _ h => by cases h
  induction cs generalizing next mark with
  | nil => intro p hp; cases hp
  | token f u rest ih =>
    obtain ⟨q, mark', hpieces, hq⟩ := pieces_token next mark f u rest
    rw [hpieces, List.forall_mem_cons]
    rcases hq with ⟨rfl, rfl⟩ | ⟨id, kind, rfl, rfl, rfl⟩
    · exact ⟨trivial, ih hmark hst⟩
    · exact ⟨hmark id kind rfl, ih hnone hst⟩
  | hole f i rest ih =>
    rw [pieces, List.forall_mem_cons]
    exact ⟨trivial, ih hmark hst⟩
  | node f k s below rest ihb ihr =>
    rw [pieces_node, List.forall_mem_append]
    cases h : Kind.of? ⟨k, s, below⟩ with
    | none =>
      obtain ⟨hb, hr⟩ := Template.stores_plain h hst
      have hnode : nodePieces next ⟨k, s, below⟩ = pieces next none below := by
        simp [nodePieces, h]
      rw [hnode, hotspotCount_plain h]
      exact ⟨ihb hnone hb, ihr hmark hr⟩
    | some kind =>
      obtain ⟨hb, hid, hr⟩ := Template.stores_match h hst
      have hown : (t.hotspot? (next + hotspotCount below)).map Hotspot.kind = some kind := by
        rw [hid]
        rfl
      rw [hotspotCount_match h]
      refine ⟨?_, ihr hmark hr⟩
      by_cases hk : kind = .predicate
      · subst hk
        simp only [nodePieces, h, List.forall_mem_cons, List.forall_mem_append]
        exact ⟨hown, ihb hnone hb, hown, fun p hp => by cases hp⟩
      · rw [nodePieces_selector h hk]
        apply ihb _ hb
        rintro id kind' ⟨⟩
        exact ⟨hown, hk⟩

end Owners

/-- The places around predicate calls are balanced, and inside each pair stands a method name. -/
inductive Bracketed : List Piece → Prop
  | nil : Bracketed []
  | kept {ps : List Piece} (text : String) (hps : Bracketed ps) : Bracketed (.kept text :: ps)
  | selector {ps : List Piece} (id : Nat) (kind : Kind) (text : String) (hps : Bracketed ps) :
      Bracketed (.selector id kind text :: ps)
  | predicate {xs ys zs : List Piece} (id : Nat) {text : String} (hmark : '?' ∈ text.toList)
      (hxs : Bracketed xs) (hys : Bracketed ys) (hzs : Bracketed zs) :
      Bracketed (.opening id :: (xs ++ .kept text :: (ys ++ .closing id :: zs)))

namespace Bracketed

theorem append {ps qs : List Piece} (hp : Bracketed ps) (hq : Bracketed qs) :
    Bracketed (ps ++ qs) := by
  induction hp with
  | nil => exact hq
  | kept text _ ih => exact .kept text ih
  | selector id kind text _ ih => exact .selector id kind text ih
  | predicate id hmark hxs hys _ _ _ ih =>
    have h := Bracketed.predicate id hmark hxs hys ih
    simpa only [List.cons_append, List.append_assoc] using h

structure Row (next : Nat) (cs : Children) : Prop where
  whole : ∀ mark, Bracketed (pieces next mark cs)
  method : ∀ t, cs.fieldToken? Kind.predicate.selectorField = some t →
    ∃ xs ys, pieces next none cs = xs ++ .kept t.text :: ys ∧ Bracketed xs ∧ Bracketed ys

theorem mark_of_predicate {n : Node} (hn : Kind.of? n = some .predicate) :
    ∃ t, n.children.fieldToken? Kind.predicate.selectorField = some t ∧ '?' ∈ t.text.toList := by
  have haccepts := Kind.accepts_of_of? hn
  simp only [Kind.accepts, Option.any_eq_true, decide_eq_true_eq] at haccepts
  obtain ⟨name, hmethod, hlast⟩ := haccepts
  obtain ⟨t, ht, rfl⟩ := Kind.selector?_eq_some (k := .predicate) hmethod
  exact ⟨t, ht, List.mem_of_getLast? hlast⟩

theorem nodePieces {next : Nat} {n : Node} (h : Row next n.children) :
    Bracketed (nodePieces next n) := by
  cases hn : Kind.of? n with
  | none => simpa only [Variant.nodePieces, hn] using h.whole none
  | some kind =>
    by_cases hk : kind = .predicate
    · subst hk
      obtain ⟨t, ht, hmark⟩ := mark_of_predicate hn
      obtain ⟨xs, ys, hpieces, hxs, hys⟩ := h.method t ht
      have hb := Bracketed.predicate (next + hotspotCount n.children) hmark hxs hys .nil
      simpa [Variant.nodePieces, hn, hpieces] using hb
    · rw [nodePieces_selector hn hk]
      exact h.whole _

theorem row (next : Nat) (cs : Children) : Row next cs := by
  induction cs generalizing next with
  | nil => exact ⟨fun _ => .nil, fun t h => by cases h⟩
  | token f u rest ih =>
    constructor
    · intro mark
      obtain ⟨q, mark', hpieces, hq⟩ := pieces_token next mark f u rest
      rw [hpieces]
      rcases hq with ⟨rfl, -⟩ | ⟨id, kind, -, rfl, -⟩
      · exact .kept _ ((ih next).whole mark')
      · exact .selector id kind _ ((ih next).whole mark')
    · intro t ht
      by_cases hf : f = some Kind.predicate.selectorField
      · simp only [Children.fieldToken?_token, hf, if_true, Option.some.injEq] at ht
        subst ht
        exact ⟨[], pieces next none rest, rfl, .nil, (ih next).whole none⟩
      · simp only [Children.fieldToken?_token, hf, if_false] at ht
        obtain ⟨xs, ys, hpieces, hxs, hys⟩ := (ih next).method t ht
        exact ⟨.kept u.text :: xs, ys, by simp [pieces, hpieces], .kept _ hxs, hys⟩
  | hole f i rest ih =>
    constructor
    · intro mark
      exact .kept _ ((ih next).whole mark)
    · intro t ht
      by_cases hf : f = some Kind.predicate.selectorField
      · simp [hf] at ht
      · simp only [Children.fieldToken?_hole, hf, if_false] at ht
        obtain ⟨xs, ys, hpieces, hxs, hys⟩ := (ih next).method t ht
        exact ⟨.kept (Children.holeMark i) :: xs, ys, by simp [pieces, hpieces], .kept _ hxs, hys⟩
  | node f k s below rest ihb ihr =>
    have hnode : Bracketed (Variant.nodePieces next ⟨k, s, below⟩) := nodePieces (ihb next)
    have hrest := ihr (next + hotspotCount (.node f k s below .nil))
    constructor
    · intro mark
      rw [pieces_node]
      exact hnode.append (hrest.whole mark)
    · intro t ht
      by_cases hf : f = some Kind.predicate.selectorField
      · simp [hf] at ht
      · simp only [Children.fieldToken?_node, hf, if_false] at ht
        obtain ⟨xs, ys, hpieces, hxs, hys⟩ := hrest.method t ht
        exact ⟨_, ys, by rw [pieces_node, hpieces, List.append_assoc], hnode.append hxs, hys⟩

end Bracketed

end Mender.Variant
