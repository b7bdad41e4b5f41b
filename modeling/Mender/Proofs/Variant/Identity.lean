import Mender.Proofs.Variant.Mutation

namespace Mender.Hotspot

open Syntax

theorem captured_of_mem {T : Node} {h : Hotspot} (hm : h ∈ (detect T).hotspots) :
    ∃ n ∈ T.children.nodes, ∃ start, Kind.of? n = some h.kind ∧
      h.node = n.update (cut start n.children).children := by
  obtain ⟨id, hid⟩ := List.mem_iff_getElem?.mp hm
  obtain ⟨n, hn, start, hkind, -, hnode, -, -⟩ := Template.hotspot_detect hid
  exact ⟨n, hn, start, hkind, hnode⟩

theorem identity?_cut (kind : Kind) (next : Nat) (n : Node) :
    kind.identity? (n.update (cut next n.children).children) = kind.identity? n :=
  Kind.identity?_congr rfl (fieldToken?_cut _ next n.children)

namespace Kind

/-- Whether a selector token is made as the grammar makes it: an operator is its own kind, the name
of a method is an identifier. -/
def plainToken (t : Token) : Kind → Bool
  | comparison | equality => t.kind = t.text
  | predicate => true
  | filter | quantifier => t.kind = "identifier"

theorem selectorToken_of_plain {k : Kind} (hk : k ≠ predicate) {t : Token}
    (h : k.plainToken t = true) : k.selectorToken t.text = t := by
  obtain ⟨kind, text⟩ := t
  cases k with
  | predicate => exact absurd rfl hk
  | comparison | equality | filter | quantifier =>
    have he := of_decide_eq_true h
    dsimp only at he
    rw [he]
    rfl

end Kind

def PlainTokens (cs : Children) : Prop :=
  ∀ n ∈ cs.nodes, ∀ kind ∈ Kind.of? n, ∀ t ∈ n.children.fieldToken? kind.selectorField,
    kind.plainToken t = true

instance (cs : Children) : Decidable (PlainTokens cs) :=
  inferInstanceAs (Decidable (∀ n ∈ cs.nodes, ∀ kind ∈ Kind.of? n,
    ∀ t ∈ n.children.fieldToken? kind.selectorField, kind.plainToken t = true))

end Mender.Hotspot

namespace Mender.Variant

open Syntax Hotspot

namespace Assignment

def identity (t : Template) : Assignment := ⟨t.hotspots.map fun h => h.kind.identity? h.node⟩

def Keeps (a : Assignment) (t : Template) : Prop :=
  ∀ id h, t.hotspot? id = some h → a.choice? id = h.kind.identity? h.node

theorem keeps_identity (t : Template) : (identity t).Keeps t := by
  intro id h hid
  have hl : t.hotspots[id]? = some h := hid
  simp [choice?, identity, hl]

theorem Keeps.fits {a : Assignment} {T : Node} (ha : a.Keeps (detect T)) : a.Fits (detect T) := by
  rw [fits_detect]
  intro id h hid
  obtain ⟨n, -, start, hk, hn⟩ := captured_of_mem (List.mem_of_getElem? hid)
  obtain ⟨i, alt, hi, halt, -⟩ := Kind.identity_of_accepts (Kind.accepts_of_of? hk)
  have hc : a.choice? id = some i := by rw [ha id h hid, hn, identity?_cut, hi]
  rw [alternative?, hc, Option.bind_some, halt]
  rfl

theorem Keeps.rewrite {a : Assignment} {t : Template} (ha : a.Keeps t) {next id : Nat}
    {kind : Kind} {n : Node} {top : List Nat} (hn : Kind.of? n = some kind)
    (hid : t.hotspot? id = some ⟨kind, n.update (cut next n.children).children, top⟩) {m : Node}
    (hm : m.children.fieldToken? kind.selectorField = n.children.fieldToken? kind.selectorField) :
    (a.rewrite id kind m).text = m.text ∧
      ((∀ t ∈ n.children.fieldToken? kind.selectorField, kind.plainToken t = true) →
        a.rewrite id kind m = m) := by
  obtain ⟨i, alt, hi, halt, hcase⟩ := Kind.identity_of_accepts (Kind.accepts_of_of? hn)
  have hc : a.choice? id = some i := by rw [ha _ _ hid, identity?_cut, hi]
  have hr : a.rewrite id kind m = alt.apply m := by simp [Assignment.rewrite, alternative?, hc, halt]
  rw [hr]
  rcases hcase with ⟨-, rfl⟩ | ⟨hk, u, hu, rfl⟩
  · exact ⟨rfl, fun _ => rfl⟩
  · rw [Kind.apply_rewrite]
    obtain ⟨cs, hcs, htext⟩ := Children.text_replaceToken? (hm.trans hu)
      (Kind.text_selectorToken kind u.text)
    constructor
    · rw [Node.replaceToken?, hcs]
      exact htext
    · intro hplain
      rw [Kind.selectorToken_of_plain hk (hplain u hu), Node.replaceToken?,
        Children.replaceToken?_self (hm.trans hu)]
      rfl

theorem Keeps.mutate {a : Assignment} {t : Template} (ha : a.Keeps t) {next : Nat} {cs : Children}
    (hst : t.Stores next (cut next cs).hotspots) :
    (a.mutate next cs).text = cs.text ∧ (PlainTokens cs → a.mutate next cs = cs) := by
  induction cs generalizing next with
  | nil => exact ⟨rfl, fun _ => rfl⟩
  | token f u rest ih =>
    obtain ⟨ht, he⟩ := ih hst
    exact ⟨by simp [Assignment.mutate, ht], fun hp => by simp [Assignment.mutate, he hp]⟩
  | hole f i rest ih =>
    obtain ⟨ht, he⟩ := ih hst
    exact ⟨by simp [Assignment.mutate, ht], fun hp => by simp [Assignment.mutate, he hp]⟩
  | node f k s below rest ihb ihr =>
    have plain (hp : PlainTokens (.node f k s below rest)) : PlainTokens below ∧ PlainTokens rest :=
      ⟨fun n hn => hp n (by simp [Children.nodes, hn]),
        fun n hn => hp n (by simp [Children.nodes, hn])⟩
    cases h : Kind.of? ⟨k, s, below⟩ with
    | none =>
      obtain ⟨hb, hr⟩ := Template.stores_plain h hst
      obtain ⟨htb, heb⟩ := ihb hb
      obtain ⟨htr, her⟩ := ihr hr
      constructor
      · simp [Assignment.mutate, h, Children.cons, htb, htr]
      · intro hp
        simp [Assignment.mutate, h, Children.cons, heb (plain hp).1, her (plain hp).2]
    | some kind =>
      obtain ⟨hb, hid, hr⟩ := Template.stores_match h hst
      obtain ⟨htb, heb⟩ := ihb hb
      obtain ⟨htr, her⟩ := ihr hr
      obtain ⟨htext, hsame⟩ := ha.rewrite h hid (m := ⟨k, s, a.mutate next below⟩)
        (a.fieldToken?_mutate _ next below)
      rw [Node.text_eq, Node.text_eq, htb] at htext
      constructor
      · simp [Assignment.mutate, h, Children.cons, htext, htr]
      · intro hp
        have hn := hsame (hp ⟨k, s, below⟩ (by simp [Children.nodes]) kind h)
        rw [heb (plain hp).1] at hn
        simp [Assignment.mutate, h, Children.cons, heb (plain hp).1, hn, her (plain hp).2]

theorem Keeps.resolve {a : Assignment} {T : Node} (ha : a.Keeps (detect T))
    (hT : T.hasHoles = false) {id : Nat} {h : Hotspot} (hid : (detect T).hotspot? id = some h) :
    ∃ n ∈ T.children.nodes, h.node.span = n.span ∧
      ∃ m, resolveHotspot (detect T) a id = .ok m ∧ m.text = n.text := by
  obtain ⟨n, hn, start, hkind, hblock, hnode, hst, hresolve⟩ :=
    resolveHotspot_detect hT ha.fits hid
  refine ⟨n, hn, by rw [hnode]; rfl, _, hresolve, ?_⟩
  obtain ⟨kind, node, top⟩ := h
  dsimp only at hkind hnode
  subst hnode hblock
  have hbelow := (ha.mutate hst).1
  have hown := (ha.rewrite hkind hid (m := n.update (a.mutate start n.children))
    (a.fieldToken?_mutate _ start n.children)).1
  rw [Assignment.mutated, hkind]
  exact hown.trans hbelow

end Assignment

/-- Choosing the identity alternative of every hotspot gives a tree with the text of the program;
it is the program itself when the selector tokens are plain. -/
theorem build_identity {T : Node} (hT : T.hasHoles = false) :
    (∀ h ∈ (detect T).hotspots, (h.kind.identity? h.node).isSome = true) ∧
      (Assignment.identity (detect T)).Keeps (detect T) ∧
      ∀ a : Assignment, a.Keeps (detect T) → a.Fits (detect T) ∧
        ∃ n, build (detect T) a = .ok n ∧ n.text = T.text ∧ (PlainTokens T.children → n = T) := by
  refine ⟨fun h hm => ?_, Assignment.keeps_identity _, fun a ha => ⟨ha.fits, ?_⟩⟩
  · obtain ⟨n, -, start, hk, hn⟩ := captured_of_mem hm
    obtain ⟨i, -, hi, -⟩ := Kind.identity_of_accepts (Kind.accepts_of_of? hk)
    rw [hn, identity?_cut, hi]
    rfl
  · obtain ⟨htext, hsame⟩ := ha.mutate (Template.stores_detect T)
    refine ⟨_, build_eq_variant hT ha.fits, htext, fun hp => ?_⟩
    rw [Assignment.variant, hsame hp]
    rfl

theorem build_identity_nested :
    nested.hasHoles = false ∧ Assignment.identity (detect nested) = ⟨[some 0, some 0, some 0]⟩ ∧
      build (detect nested) ⟨[some 0, some 0, some 0]⟩ = .ok nested := by
  have hid : Assignment.identity (detect nested) = ⟨[some 0, some 0, some 0]⟩ := by
    decide +kernel
  obtain ⟨-, hkeeps, hlaw⟩ := build_identity (T := nested) rfl
  obtain ⟨-, n, hb, -, hn⟩ := hlaw _ (hid ▸ hkeeps)
  exact ⟨rfl, hid, hb.trans (by rw [hn (by decide +kernel)])⟩

end Mender.Variant
