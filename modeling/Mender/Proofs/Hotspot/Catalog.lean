import Mender.Hotspot.Kind
import Mender.Proofs.Syntax.Tree

namespace Mender.Hotspot

open Syntax

namespace Kind

def selectorField : Kind → String
  | comparison | equality => "operator"
  | predicate | filter | quantifier => "method"

def selectorToken : Kind → String → Token
  | comparison, s | equality, s => ⟨s, s⟩
  | predicate, s | filter, s | quantifier, s => ⟨"identifier", s⟩

@[simp] theorem text_selectorToken (k : Kind) (s : String) : (k.selectorToken s).text = s := by
  cases k <;> rfl

def rewrite : Kind → String → Alternative
  | comparison, s | equality, s => .operator s
  | predicate, s | filter, s | quantifier, s => .method s

theorem alternatives_eq {k : Kind} (hk : k ≠ predicate) :
    k.alternatives = k.selectors.map k.rewrite := by
  cases k with
  | predicate => exact absurd rfl hk
  | comparison => rfl
  | equality => rfl
  | filter => rfl
  | quantifier => rfl

theorem apply_rewrite (k : Kind) (s : String) (n : Node) :
    (k.rewrite s).apply n = (n.replaceToken? k.selectorField (k.selectorToken s)).getD n := by
  cases k <;> rfl

theorem nodup_selectors (k : Kind) : k.selectors.Nodup := by cases k <;> decide

theorem two_le_width (k : Kind) : 2 ≤ k.width := by cases k <;> decide

theorem accepts_of_of? {n : Node} {k : Kind} (h : of? n = some k) : k.accepts n = true := by
  have := List.find?_some h
  simpa using this

def nodeKind : Kind → String
  | comparison | equality => "binary"
  | predicate | filter | quantifier => "call"

theorem selector?_eq (n : Node) (k : Kind) :
    k.selector? n = if n.kind = k.nodeKind then
      (n.children.fieldToken? k.selectorField).map (·.text) else none := by
  cases k with
  | comparison | equality =>
    rw [selector?, operator?, Node.fieldText?_eq]
    rfl
  | predicate | filter | quantifier =>
    rw [selector?, method?, Node.fieldText?_eq]
    rfl

theorem selector?_eq_some {n : Node} {k : Kind} {s : String} (h : k.selector? n = some s) :
    ∃ t, n.children.fieldToken? k.selectorField = some t ∧ t.text = s := by
  rw [selector?_eq] at h
  by_cases hn : n.kind = k.nodeKind
  · rwa [if_pos hn, Option.map_eq_some_iff] at h
  · rw [if_neg hn] at h
    cases h

theorem selector_of_accepts {n : Node} {k : Kind} (hk : k ≠ predicate) (h : k.accepts n = true) :
    ∃ s, k.selector? n = some s ∧ s ∈ k.selectors := by
  cases k with
  | predicate => exact absurd rfl hk
  | comparison | equality =>
    simp only [accepts, Option.any_eq_true, decide_eq_true_eq] at h
    exact h
  | filter | quantifier =>
    simp only [accepts, Bool.and_eq_true, Option.any_eq_true, decide_eq_true_eq] at h
    exact h.2

theorem selector_nonempty {n : Node} {k : Kind} (h : k.accepts n = true) :
    ∃ s, k.selector? n = some s ∧ s ≠ "" := by
  cases k with
  | comparison | equality | predicate =>
    rw [accepts, Option.any_eq_true] at h
    obtain ⟨s, hs, hmatch⟩ := h
    refine ⟨s, hs, ?_⟩
    rintro rfl
    exact absurd hmatch (by decide)
  | filter | quantifier =>
    rw [accepts, Bool.and_eq_true, Option.any_eq_true] at h
    obtain ⟨-, s, hs, hmatch⟩ := h
    refine ⟨s, hs, ?_⟩
    rintro rfl
    exact absurd hmatch (by decide)

theorem kind_of_accepts {n : Node} {k : Kind} (h : k.accepts n = true) : n.kind = k.nodeKind := by
  obtain ⟨s, hs, -⟩ := selector_nonempty h
  rw [selector?_eq] at hs
  by_cases hn : n.kind = k.nodeKind
  · exact hn
  · rw [if_neg hn] at hs
    cases hs

theorem of?_eq_none_of_text {n : Node} (h : n.text = "") : of? n = none := by
  cases hk : of? n with
  | none => rfl
  | some k =>
    obtain ⟨s, hs, hne⟩ := selector_nonempty (accepts_of_of? hk)
    obtain ⟨t, ht, rfl⟩ := selector?_eq_some hs
    obtain ⟨before, after, he, -⟩ := Children.split_of_fieldToken? ht
    rw [Node.text_eq, he, Children.text_append, Children.text_token] at h
    exact absurd (String.append_eq_empty_iff.mp (String.append_eq_empty_iff.mp h).2).1 hne

/-- Matching nodes are no blocks, so a block is never cut out of its call. -/
theorem not_block_of_of? {n : Node} {k : Kind} (h : of? n = some k) :
    n.kind ≠ "block" ∧ n.kind ≠ "do_block" := by
  rw [kind_of_accepts (accepts_of_of? h)]
  cases k <;> decide

section Block

variable {k : String} {s : Option Span} {f : Option String} {rest : Children}

theorem hasBlock_token (t : Token) : hasBlock ⟨k, s, .token f t rest⟩ =
    if f = some "block" then false else hasBlock ⟨k, s, rest⟩ := by
  by_cases hf : f = some "block" <;> simp [hasBlock, Node.fieldNode?, Node.field?,
    Children.field?, hf]

theorem hasBlock_hole (i : Nat) : hasBlock ⟨k, s, .hole f i rest⟩ =
    if f = some "block" then false else hasBlock ⟨k, s, rest⟩ := by
  by_cases hf : f = some "block" <;> simp [hasBlock, Node.fieldNode?, Node.field?,
    Children.field?, hf]

theorem hasBlock_node (k' : String) (s' : Option Span) (below : Children) :
    hasBlock ⟨k, s, .node f k' s' below rest⟩ =
      if f = some "block" then (k' = "block" || k' = "do_block" : Bool)
      else hasBlock ⟨k, s, rest⟩ := by
  by_cases hf : f = some "block" <;> simp [hasBlock, Node.fieldNode?, Node.field?,
    Children.field?, hf]

end Block

theorem of?_congr {n m : Node} (hk : n.kind = m.kind)
    (ht : ∀ name, n.children.fieldToken? name = m.children.fieldToken? name)
    (hb : hasBlock n = hasBlock m) : of? n = of? m := by
  have ho : operator? n = operator? m := by
    rw [operator?, operator?, Node.fieldText?_eq, Node.fieldText?_eq, hk, ht]
  have hm : method? n = method? m := by
    rw [method?, method?, Node.fieldText?_eq, Node.fieldText?_eq, hk, ht]
  have ha : ∀ k : Kind, k.accepts n = k.accepts m := by
    intro k
    cases k with
    | comparison | equality => rw [accepts, accepts, ho]
    | predicate => rw [accepts, accepts, hm]
    | filter | quantifier => rw [accepts, accepts, hb, hm]
  simp only [of?, ha]

theorem identity?_congr {k : Kind} {n m : Node} (hk : n.kind = m.kind)
    (ht : n.children.fieldToken? k.selectorField = m.children.fieldToken? k.selectorField) :
    k.identity? n = k.identity? m := by
  have hs : k.selector? n = k.selector? m := by rw [selector?_eq, selector?_eq, hk, ht]
  cases k with
  | predicate => rfl
  | comparison | equality | filter | quantifier => simp only [identity?, hs]

theorem identity_of_accepts {n : Node} {k : Kind} (h : k.accepts n = true) :
    ∃ i alt, k.identity? n = some i ∧ k.alternatives[i]? = some alt ∧
      (k = predicate ∧ alt = .unchanged ∨
        k ≠ predicate ∧ ∃ t, n.children.fieldToken? k.selectorField = some t ∧
          alt = k.rewrite t.text) := by
  by_cases hk : k = predicate
  · subst hk
    exact ⟨0, .unchanged, rfl, rfl, Or.inl ⟨rfl, rfl⟩⟩
  · obtain ⟨s, hs, hm⟩ := selector_of_accepts hk h
    obtain ⟨t, ht, rfl⟩ := selector?_eq_some hs
    have hi := List.findIdx?_eq_some_of_exists (p := (· = t.text)) ⟨t.text, hm, by simp⟩
    obtain ⟨hl, he, -⟩ := List.findIdx?_eq_some_iff_getElem.mp hi
    have hid : k.identity? n = k.selectors.findIdx? (· = t.text) := by
      cases k with
      | predicate => exact absurd rfl hk
      | comparison | equality | filter | quantifier => simp only [identity?, hs, Option.bind_some]
    refine ⟨_, k.rewrite t.text, hid.trans hi, ?_, Or.inr ⟨hk, t, ht, rfl⟩⟩
    rw [alternatives_eq hk, List.getElem?_map, List.getElem?_eq_getElem hl,
      of_decide_eq_true he]
    rfl

end Kind

end Mender.Hotspot
