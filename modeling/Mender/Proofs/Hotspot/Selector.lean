import Mender.Proofs.Hotspot.Rewrite
import Mender.Proofs.Syntax.Walk

namespace Mender.Syntax

namespace Children

theorem toList_swapToken {name : String} {t : Token} {before after : List Child} {cs : Children}
    (h : cs.toList = before ++ ⟨some name, .token t⟩ :: after)
    (hbefore : ∀ c ∈ before, c.field ≠ some name) (new : Token) :
    (cs.swapToken name new).toList = before ++ ⟨some name, .token new⟩ :: after := by
  induction cs generalizing before with
  | nil => cases before <;> cases h
  | token f u rest ih =>
    cases before with
    | nil =>
      cases h
      simp [toList]
    | cons c before =>
      obtain ⟨rfl, hrest⟩ := List.cons.inj h
      obtain ⟨hf, hbefore⟩ := List.forall_mem_cons.mp hbefore
      rw [swapToken_token, if_neg hf, toList, ih hrest hbefore, List.cons_append]
  | hole f i rest ih =>
    cases before with
    | nil => cases h
    | cons c before =>
      obtain ⟨rfl, hrest⟩ := List.cons.inj h
      obtain ⟨-, hbefore⟩ := List.forall_mem_cons.mp hbefore
      rw [swapToken_hole, toList, ih hrest hbefore, List.cons_append]
  | node f k s below rest _ ih =>
    cases before with
    | nil => cases h
    | cons c before =>
      obtain ⟨rfl, hrest⟩ := List.cons.inj h
      obtain ⟨-, hbefore⟩ := List.forall_mem_cons.mp hbefore
      rw [swapToken_node, toList, ih hrest hbefore, List.cons_append]

theorem text_swapToken {name : String} {t new : Token} {cs : Children}
    (h : cs.fieldToken? name = some t) (hn : new.text = t.text) :
    (cs.swapToken name new).text = cs.text := by
  obtain ⟨cs', hcs, htext⟩ := text_replaceToken? h hn
  rw [swapToken, hcs]
  exact htext

end Children

end Mender.Syntax

namespace Mender.Hotspot

open Syntax

/-- The second node is the first one but for a token: the first child under the field of the
selector, which is a token, has become the selector `s`. -/
structure Reselects (k : Kind) (s : String) (n m : Node) : Prop where
  kind : m.kind = n.kind
  span : m.span = n.span
  children : ∃ before t after,
    n.children.toList = before ++ ⟨some k.selectorField, .token t⟩ :: after ∧
    (∀ c ∈ before, c.field ≠ some k.selectorField) ∧
    m.children.toList =
      before ++ ⟨some k.selectorField, .token (k.selectorToken s)⟩ :: after

namespace Kind

variable {k : Kind} {n : Node}

theorem label_rewrite (k : Kind) (s : String) : (k.rewrite s).label = s := by
  cases k <;> rfl

theorem exists_selector (hk : k ≠ predicate) {i : Nat} {alt : Alternative}
    (halt : k.alternatives[i]? = some alt) :
    ∃ s, k.selectors[i]? = some s ∧ alt = k.rewrite s := by
  rw [alternatives_eq hk, List.getElem?_map, Option.map_eq_some_iff] at halt
  obtain ⟨s, hs, rfl⟩ := halt
  exact ⟨s, hs, rfl⟩

theorem reselects_rewrite (hk : k ≠ predicate) (h : k.accepts n = true) (s : String) :
    Reselects k s n ((k.rewrite s).apply n) := by
  rw [apply_rewrite_eq]
  obtain ⟨_, hs, -⟩ := selector_of_accepts hk h
  obtain ⟨t, ht, -⟩ := selector?_eq_some hs
  obtain ⟨before, after, hsplit, hbefore⟩ := Children.fieldToken?_eq_some_iff.mp ht
  exact ⟨rfl, rfl, before, t, after, hsplit, hbefore,
    Children.toList_swapToken hsplit hbefore _⟩

theorem text_apply_of_identity (h : k.accepts n = true) {i : Nat} {alt : Alternative}
    (halt : k.alternatives[i]? = some alt) (hid : k.identity? n = some i) :
    (alt.apply n).text = n.text := by
  obtain ⟨j, own, hj, hown, hcase⟩ := identity_of_accepts h
  obtain rfl : i = j := Option.some.inj (hid.symm.trans hj)
  obtain rfl : alt = own := Option.some.inj (halt.symm.trans hown)
  rcases hcase with ⟨-, rfl⟩ | ⟨-, t, ht, rfl⟩
  · rfl
  · rw [apply_rewrite_eq]
    exact Children.text_swapToken ht (text_selectorToken k t.text)

end Kind

theorem text_negation (n : Node) : (Alternative.negation n).text = "(!" ++ n.text ++ ")" := by
  simp only [Node.text_eq, Alternative.negation, Children.text_token, Children.text_node,
    Children.text_nil, String.append_empty, ← String.append_assoc]
  rfl

theorem contains_negation (n : Node) : (Alternative.negation n).Contains n := by
  have hunary : (Alternative.negation n).HasChild ⟨"unary", none,
      .token (some "operator") ⟨"!", "!"⟩
        (.node (some "operand") n.kind n.span n.children .nil)⟩ :=
    ⟨_, List.mem_cons_of_mem _ List.mem_cons_self, rfl⟩
  have hoperand : Node.HasChild ⟨"unary", none, .token (some "operator") ⟨"!", "!"⟩
      (.node (some "operand") n.kind n.span n.children .nil)⟩ n :=
    ⟨_, List.mem_cons_of_mem _ List.mem_cons_self, rfl⟩
  exact .head hunary (.single hoperand)

/-- The alternatives that choose a selector keep a node in its family: each changes the token of the
selector and nothing else, the result is told apart by the selector it has now, the last choice is
the only one that shows, and the choice of the node's own selector keeps the text. A negation
encloses the text and holds the node as it was. -/
theorem alternatives_closed (n : Node) :
    (∀ k, Kind.of? n = some k → k ≠ .predicate → ∀ i alt, k.alternatives[i]? = some alt →
      Reselects k alt.label n (alt.apply n) ∧
      Kind.of? (alt.apply n) = some k ∧ k.identity? (alt.apply n) = some i ∧
      (∀ alt' ∈ k.alternatives, alt'.apply (alt.apply n) = alt'.apply n) ∧
      (k.identity? n = some i → (alt.apply n).text = n.text)) ∧
    ∃ alt, Kind.predicate.alternatives[1]? = some alt ∧
      (alt.apply n).text = "(!" ++ n.text ++ ")" ∧ (alt.apply n).span = n.span ∧
      (alt.apply n).Contains n := by
  refine ⟨fun k hk hne i alt halt => ?_, _, rfl, text_negation n, rfl, contains_negation n⟩
  have haccepts : k.accepts n = true := Kind.accepts_of_of? hk
  have htext := Kind.text_apply_of_identity haccepts halt
  obtain ⟨s, hs, rfl⟩ := Kind.exists_selector hne halt
  have hmem : s ∈ k.selectors := List.mem_of_getElem? hs
  refine ⟨?_, Kind.of?_rewrite hne hk hmem, ?_, fun alt' halt' => ?_, htext⟩
  · rw [Kind.label_rewrite]
    exact Kind.reselects_rewrite hne haccepts s
  · exact Kind.identity?_of_selector hne (Kind.selector?_rewrite hne haccepts s) hs
  · rw [Kind.alternatives_eq hne, List.mem_map] at halt'
    obtain ⟨s', -, rfl⟩ := halt'
    exact Kind.apply_rewrite_rewrite k s s' n

def anyCall : Node :=
  ⟨"call", some ⟨0, 20⟩,
    .token (some "receiver") ⟨"identifier", "xs"⟩ <|
    .token (some "operator") ⟨".", "."⟩ <|
    .token (some "method") ⟨"identifier", "any?"⟩ <|
    .token none ⟨"trivia", " "⟩ <|
    .node (some "block") "do_block" none
      (.token none ⟨"do", "do"⟩ <| .hole none 0 <| .token none ⟨"end", "end"⟩ .nil) .nil⟩

theorem alternatives_closed_any :
    (Kind.of? anyCall = some .quantifier ∧ Kind.quantifier ≠ .predicate) ∧
    (Kind.quantifier.alternatives[1]? = some (.method "none?") ∧
      .method "one?" ∈ Kind.quantifier.alternatives ∧
      let m := (Alternative.method "none?").apply anyCall
      Kind.of? m = some .quantifier ∧ Kind.quantifier.identity? m = some 1 ∧
      (Alternative.method "one?").apply m = (Alternative.method "one?").apply anyCall) ∧
    (Kind.quantifier.alternatives[2]? = some (.method "any?") ∧
      Kind.quantifier.identity? anyCall = some 2 ∧
      ((Alternative.method "any?").apply anyCall).text = anyCall.text) := by
  have hof : Kind.of? anyCall = some .quantifier := by decide
  have hne : Kind.quantifier ≠ .predicate := by decide
  have hid : Kind.quantifier.identity? anyCall = some 2 := by decide
  have hone : .method "one?" ∈ Kind.quantifier.alternatives := by decide
  have hclosed := (alternatives_closed anyCall).1 .quantifier hof hne
  obtain ⟨-, hfamily, hindex, hlast, -⟩ := hclosed 1 (.method "none?") rfl
  obtain ⟨-, -, -, -, hkeeps⟩ := hclosed 2 (.method "any?") rfl
  exact ⟨⟨hof, hne⟩, ⟨rfl, hone, hfamily, hindex, hlast _ hone⟩, rfl, hid, hkeeps hid⟩

end Mender.Hotspot
