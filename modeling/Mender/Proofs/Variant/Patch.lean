import Mender.Proofs.Variant.Mutation

/-!
The text of a variant. The text of a tree is cut into pieces without regard to any assignment; an
assignment replaces selectors, and writes a negation around a predicate call, at the pieces that
stand for these, and leaves every other piece as it is.
-/

namespace Mender.Variant

open Syntax Hotspot

inductive Piece where
  | kept (text : String)
  | selector (id : Nat) (kind : Kind) (text : String)
  /-- The place in front of a predicate hotspot, which is empty in the text. -/
  | opening (id : Nat)
  | closing (id : Nat)
  deriving DecidableEq, Repr

namespace Piece

def original : Piece → String
  | kept text => text
  | selector _ _ text => text
  | opening _ => ""
  | closing _ => ""

def under (a : Assignment) : Piece → String
  | kept text => text
  | selector id kind text => ((a.choice? id).bind (kind.selectors[·]?)).getD text
  | opening id => if a.choice? id = some 1 then "(!" else ""
  | closing id => if a.choice? id = some 1 then ")" else ""

end Piece

/-- The pieces of a row of children. `mark` is the hotspot whose children they are, as long as its
selector token has not come. -/
def pieces (next : Nat) (mark : Option (Nat × Kind)) : Children → List Piece
  | .nil => []
  | .token f t rest =>
    match mark with
    | none => .kept t.text :: pieces next none rest
    | some (id, kind) =>
      if f = some kind.selectorField then .selector id kind t.text :: pieces next none rest
      else .kept t.text :: pieces next (some (id, kind)) rest
  | .hole _ i rest => .kept (Children.holeMark i) :: pieces next mark rest
  | .node _ k s below rest =>
    let id := next + hotspotCount below
    match Kind.of? ⟨k, s, below⟩ with
    | none => pieces next none below ++ pieces id mark rest
    | some .predicate =>
      .opening id :: (pieces next none below ++ .closing id :: pieces (id + 1) mark rest)
    | some kind => pieces next (some (id, kind)) below ++ pieces (id + 1) mark rest

def render (f : Piece → String) (ps : List Piece) : String := String.join (ps.map f)

@[simp] theorem render_nil (f : Piece → String) : render f [] = "" := rfl

@[simp] theorem render_cons (f : Piece → String) (p : Piece) (ps : List Piece) :
    render f (p :: ps) = f p ++ render f ps := by
  simp [render]

@[simp] theorem render_append (f : Piece → String) (ps qs : List Piece) :
    render f (ps ++ qs) = render f ps ++ render f qs := by
  simp [render]

def nodePieces (next : Nat) (n : Node) : List Piece :=
  let id := next + hotspotCount n.children
  match Kind.of? n with
  | none => pieces next none n.children
  | some .predicate => .opening id :: (pieces next none n.children ++ [.closing id])
  | some kind => pieces next (some (id, kind)) n.children

theorem nodePieces_selector {n : Node} {kind : Kind} (hn : Kind.of? n = some kind)
    (hk : kind ≠ .predicate) (next : Nat) :
    nodePieces next n = pieces next (some (next + hotspotCount n.children, kind)) n.children := by
  unfold nodePieces
  rw [hn]
  cases kind <;> first | exact absurd rfl hk | rfl

theorem pieces_node (next : Nat) (mark : Option (Nat × Kind)) (f : Option String) (k : String)
    (s : Option Span) (below rest : Children) :
    pieces next mark (.node f k s below rest) =
      nodePieces next ⟨k, s, below⟩ ++
        pieces (next + hotspotCount (.node f k s below .nil)) mark rest := by
  cases h : Kind.of? ⟨k, s, below⟩ with
  | none => simp [pieces, nodePieces, h, hotspotCount_plain h]
  | some kind =>
    cases kind <;> simp [pieces, nodePieces, h, hotspotCount_match h, Nat.add_assoc]

theorem render_original (next : Nat) (mark : Option (Nat × Kind)) (cs : Children) :
    render Piece.original (pieces next mark cs) = cs.text := by
  induction cs generalizing next mark with
  | nil => rfl
  | token f t rest ih =>
    cases mark with
    | none => simp [pieces, Piece.original, ih]
    | some m =>
      obtain ⟨id, kind⟩ := m
      by_cases hf : f = some kind.selectorField <;> simp [pieces, hf, Piece.original, ih]
  | hole f i rest ih => simp [pieces, Piece.original, ih]
  | node f k s below rest ihb ihr =>
    have hnode : render Piece.original (nodePieces next ⟨k, s, below⟩) = below.text := by
      unfold nodePieces
      split <;> simp [Piece.original, ihb]
    simp [pieces_node, hnode, ihr]

namespace Assignment

theorem text_rewrite_predicate (a : Assignment) (id : Nat) (n : Node) :
    (a.rewrite id .predicate n).text =
      (Piece.opening id).under a ++ n.text ++ (Piece.closing id).under a := by
  have hneg : (Alternative.negation n).text = "(!" ++ n.text ++ ")" := by
    simp only [Node.text_eq, Alternative.negation, Children.text_token, Children.text_node,
      Children.text_nil, String.append_empty, ← String.append_assoc]
    rfl
  unfold rewrite alternative? Piece.under
  cases hc : a.choice? id with
  | none => simp [hc]
  | some c =>
    match c with
    | 0 => simp [hc, Kind.alternatives, Alternative.apply]
    | 1 => simpa [hc, Kind.alternatives, Alternative.apply] using hneg
    | c + 2 => simp [hc, Kind.alternatives]

def selector? (a : Assignment) (id : Nat) (kind : Kind) : Option String :=
  (a.choice? id).bind (kind.selectors[·]?)

theorem rewrite_selector (a : Assignment) (id : Nat) {kind : Kind} (hk : kind ≠ .predicate)
    (n : Node) :
    a.rewrite id kind n = ((a.selector? id kind).map fun s =>
      (n.replaceToken? kind.selectorField (kind.selectorToken s)).getD n).getD n := by
  unfold rewrite alternative? selector?
  rw [Kind.alternatives_eq hk]
  cases a.choice? id with
  | none => rfl
  | some c =>
    simp only [Option.bind_some, List.getElem?_map]
    cases kind.selectors[c]? with
    | none => rfl
    | some s => simp [Kind.apply_rewrite]

theorem render_mark {a : Assignment} {id : Nat} {kind : Kind} (h : a.selector? id kind = none)
    (next : Nat) (cs : Children) :
    render (Piece.under a) (pieces next (some (id, kind)) cs) =
      render (Piece.under a) (pieces next none cs) := by
  induction cs generalizing next with
  | nil => rfl
  | token f t rest ih =>
    by_cases hf : f = some kind.selectorField
    · simp [pieces, hf, Piece.under, show (a.choice? id).bind _ = none from h]
    · simp [pieces, hf, ih]
  | hole f i rest ih => simp [pieces, ih]
  | node f k s below rest _ ih => simp [pieces_node, ih]

structure Rendered (a : Assignment) (next : Nat) (cs : Children) : Prop where
  plain : (a.mutate next cs).text = render (Piece.under a) (pieces next none cs)
  marked : ∀ id kind s, a.selector? id kind = some s →
    (cs.fieldToken? kind.selectorField).isSome = true →
    ∃ cs', (a.mutate next cs).replaceToken? kind.selectorField (kind.selectorToken s) = some cs' ∧
      cs'.text = render (Piece.under a) (pieces next (some (id, kind)) cs)

theorem Rendered.node {a : Assignment} {next : Nat} {n : Node} (h : Rendered a next n.children) :
    (a.mutated next n).text = render (Piece.under a) (nodePieces next n) := by
  have hplain : (n.update (a.mutate next n.children)).text =
      render (Piece.under a) (pieces next none n.children) := h.plain
  cases hn : Kind.of? n with
  | none => simpa only [mutated, nodePieces, hn] using hplain
  | some kind =>
    by_cases hk : kind = .predicate
    · subst hk
      simp only [mutated, nodePieces, hn, text_rewrite_predicate, hplain]
      simp [String.append_assoc]
    · simp only [mutated, hn, nodePieces_selector hn hk, rewrite_selector a _ hk]
      cases hs : a.selector? (next + hotspotCount n.children) kind with
      | none => rw [render_mark hs]; exact hplain
      | some s =>
        obtain ⟨_, hsel, -⟩ := Kind.selector_of_accepts hk (Kind.accepts_of_of? hn)
        obtain ⟨t, ht, -⟩ := Kind.selector?_eq_some hsel
        obtain ⟨cs', hr, htext⟩ := h.marked _ kind s hs (by rw [ht]; rfl)
        have hnode : (n.update (a.mutate next n.children)).replaceToken? kind.selectorField
            (kind.selectorToken s) = some (n.update cs') := by
          simp [Node.replaceToken?, Node.update, hr]
        rw [Option.map_some, Option.getD_some, hnode]
        exact htext

theorem rendered (a : Assignment) (next : Nat) (cs : Children) : Rendered a next cs := by
  induction cs generalizing next with
  | nil => exact ⟨rfl, fun id kind s _ h => by cases h⟩
  | token f t rest ih =>
    have hr := ih next
    refine ⟨by simp [mutate, pieces, Piece.under, hr.plain], fun id kind s hs h => ?_⟩
    by_cases hf : f = some kind.selectorField
    · refine ⟨.token f (kind.selectorToken s) (a.mutate next rest), ?_, ?_⟩
      · simp [mutate, Children.replaceToken?, hf]
      · simp [pieces, hf, Piece.under, show (a.choice? id).bind _ = some s from hs, hr.plain]
    · simp only [Children.fieldToken?_token, hf, if_false] at h
      obtain ⟨cs', he, ht⟩ := hr.marked id kind s hs h
      refine ⟨.token f t cs', ?_, ?_⟩
      · simp [mutate, Children.replaceToken?, hf, he]
      · simp [pieces, hf, Piece.under, ht]
  | hole f i rest ih =>
    have hr := ih next
    refine ⟨by simp [mutate, pieces, Piece.under, hr.plain], fun id kind s hs h => ?_⟩
    by_cases hf : f = some kind.selectorField
    · simp [hf] at h
    · simp only [Children.fieldToken?_hole, hf, if_false] at h
      obtain ⟨cs', he, ht⟩ := hr.marked id kind s hs h
      refine ⟨.hole f i cs', ?_, ?_⟩
      · simp [mutate, Children.replaceToken?, he]
      · simp [pieces, Piece.under, ht]
  | node f k s below rest ihb ihr =>
    have hn := Rendered.node (n := ⟨k, s, below⟩) (ihb next)
    have hr := ihr (next + hotspotCount (.node f k s below .nil))
    rw [Node.text_eq] at hn
    refine ⟨by simp [mutate_node, pieces_node, Children.cons, hn, hr.plain],
      fun id kind sel hs h => ?_⟩
    by_cases hf : f = some kind.selectorField
    · simp [hf] at h
    · simp only [Children.fieldToken?_node, hf, if_false] at h
      obtain ⟨cs', he, ht⟩ := hr.marked id kind sel hs h
      refine ⟨.cons ⟨f, .node (a.mutated next ⟨k, s, below⟩)⟩ cs', ?_, ?_⟩
      · simp [mutate_node, Children.cons, Children.replaceToken?, he]
      · simp [pieces_node, Children.cons, hn, ht]

end Assignment

/-- Building from the template is mutating the tree itself, and the texts of the tree and of the
variant differ only in the selectors and in the negations around predicate calls. -/
theorem build_detect {T : Node} (hT : T.hasHoles = false) {a : Assignment}
    (ha : a.Fits (detect T)) :
    build (detect T) a = .ok (a.variant T) ∧
      T.text = render Piece.original (pieces 0 none T.children) ∧
      (a.variant T).text = render (Piece.under a) (pieces 0 none T.children) :=
  ⟨build_eq_variant hT ha, (render_original 0 none T.children).symm,
    (a.rendered 0 T.children).plain⟩

theorem build_detect_nested :
    nested.hasHoles = false ∧ (⟨[some 1, some 1, some 1]⟩ : Assignment).Fits (detect nested) ∧
      (∃ n, build (detect nested) ⟨[some 1, some 1, some 1]⟩ = .ok n ∧
        n.text = "(!xs.reject do x>=3 end.empty?)") := by
  have hfits : (⟨[some 1, some 1, some 1]⟩ : Assignment).Fits (detect nested) := by decide +kernel
  obtain ⟨hb, -, ht⟩ := build_detect (T := nested) rfl hfits
  exact ⟨rfl, hfits, _, hb, ht.trans (by decide +kernel)⟩

end Mender.Variant
