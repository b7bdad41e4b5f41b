import Mender.Proofs.Hotspot.Capture

/-!
Rewrites of the selector stay in their family. They swap one token for another and leave everything
else in its place, so what is cut out below the node stays the same, and the last rewrite of a node
is the only one that shows.
-/

namespace Mender.Hotspot

open Syntax

namespace Kind

section Family

variable {j k : Kind} {n m : Node} {s : String}

theorem eq_of_mem_selectors (hj : s ∈ j.selectors) (hk : s ∈ k.selectors) : j = k := by
  have table : ∀ s ∈ j.selectors, s ∈ k.selectors → j = k := by cases j <;> cases k <;> decide
  exact table s hj hk

theorem eq_of_accepts (hj : j ≠ predicate) (hk : k ≠ predicate) (h : j.accepts n = true)
    (h' : k.accepts n = true) : j = k := by
  have hkind : j.nodeKind = k.nodeKind := (kind_of_accepts h).symm.trans (kind_of_accepts h')
  obtain ⟨s, hs, hm⟩ := selector_of_accepts hj h
  obtain ⟨s', hs', hm'⟩ := selector_of_accepts hk h'
  have table : j.nodeKind = k.nodeKind → j.selectorField = k.selectorField := by
    cases j <;> cases k <;> decide
  rw [selector?_eq, hkind, table hkind, ← selector?_eq, hs'] at hs
  obtain rfl := Option.some.inj hs
  exact eq_of_mem_selectors hm hm'

theorem of?_eq_some_iff (hk : k ≠ predicate) : of? n = some k ↔ k.accepts n = true := by
  refine ⟨accepts_of_of?, fun h => ?_⟩
  have hmem : k ∈ [filter, quantifier, comparison, equality] := by cases k <;> simp_all
  have hlast : priority = [filter, quantifier, comparison, equality] ++ [predicate] := rfl
  rw [of?, hlast, List.find?_append]
  cases hfirst : [filter, quantifier, comparison, equality].find? (·.accepts n) with
  | none => exact absurd h (List.find?_eq_none.mp hfirst k hmem)
  | some j =>
    have hj : j ≠ predicate := by
      rintro rfl
      simpa using List.mem_of_find?_eq_some hfirst
    rw [Option.some_or, eq_of_accepts hj hk (List.find?_some hfirst) h]

theorem accepts_of_selector (hk : k ≠ predicate) (h : k.accepts n = true)
    (hb : hasBlock m = hasBlock n) (hs : k.selector? m = some s) (hm : s ∈ k.selectors) :
    k.accepts m = true := by
  cases k with
  | predicate => exact absurd rfl hk
  | comparison | equality =>
    rw [selector?] at hs
    simp [accepts, hs, hm]
  | filter | quantifier =>
    rw [selector?] at hs
    simp only [accepts, Bool.and_eq_true] at h
    simp [accepts, hs, hm, hb, h.1]

theorem identity?_of_selector {i : Nat} (hk : k ≠ predicate) (hs : k.selector? n = some s)
    (hi : k.selectors[i]? = some s) : k.identity? n = some i := by
  have hid : k.identity? n = k.selectors.findIdx? (· = s) := by
    cases k with
    | predicate => exact absurd rfl hk
    | comparison | equality | filter | quantifier => simp only [identity?, hs, Option.bind_some]
  obtain ⟨hlt, rfl⟩ := List.getElem?_eq_some_iff.mp hi
  rw [hid, List.findIdx?_eq_some_iff_getElem]
  refine ⟨hlt, by simp, fun j hj => ?_⟩
  have hne : k.selectors[j] ≠ k.selectors[i] := fun heq => by
    have hji : j = i := (List.getElem_inj k.nodup_selectors).mp heq
    omega
  simpa using hne

end Family

section Rewrite

variable {k : Kind} {n : Node} {s : String}

theorem apply_rewrite_eq (k : Kind) (s : String) (n : Node) :
    (k.rewrite s).apply n =
      n.update (n.children.swapToken k.selectorField (k.selectorToken s)) := by
  rw [apply_rewrite, Node.replaceToken?, Children.swapToken]
  cases n.children.replaceToken? k.selectorField (k.selectorToken s) <;> rfl

theorem apply_rewrite_rewrite (k : Kind) (s s' : String) (n : Node) :
    (k.rewrite s').apply ((k.rewrite s).apply n) = (k.rewrite s').apply n := by
  simp only [apply_rewrite_eq, Node.update, Children.swapToken_swapToken]

theorem hasBlock_rewrite (k : Kind) (s : String) (n : Node) :
    hasBlock ((k.rewrite s).apply n) = hasBlock n := by
  have hne : "block" ≠ k.selectorField := by cases k <;> decide
  rw [apply_rewrite_eq, hasBlock, hasBlock, Node.fieldNode?, Node.fieldNode?, Node.field?,
    Node.field?, Node.update, Children.field?_swapToken_of_ne hne]

theorem selector?_rewrite (hk : k ≠ predicate) (h : k.accepts n = true) (s : String) :
    k.selector? ((k.rewrite s).apply n) = some s := by
  obtain ⟨s₀, hs₀, -⟩ := selector_of_accepts hk h
  obtain ⟨t, ht, -⟩ := selector?_eq_some hs₀
  have hkind : ((k.rewrite s).apply n).kind = k.nodeKind := by
    rw [apply_rewrite_eq, ← kind_of_accepts h]
    rfl
  rw [selector?_eq, if_pos hkind, apply_rewrite_eq, Node.update,
    Children.fieldToken?_swapToken ht, Option.map_some, text_selectorToken]

theorem of?_rewrite (hk : k ≠ predicate) (h : of? n = some k) (hs : s ∈ k.selectors) :
    of? ((k.rewrite s).apply n) = some k := by
  have ha := accepts_of_of? h
  rw [of?_eq_some_iff hk]
  exact accepts_of_selector hk ha (hasBlock_rewrite k s n) (selector?_rewrite hk ha s) hs

end Rewrite

theorem mem_alternatives_cases {k : Kind} {alt : Alternative} (halt : alt ∈ k.alternatives)
    (hkeep : alt ≠ .negated) :
    k = predicate ∧ alt = .unchanged ∨ k ≠ predicate ∧ ∃ s ∈ k.selectors, alt = k.rewrite s := by
  by_cases hk : k = predicate
  · subst hk
    simp only [alternatives, List.mem_cons, List.not_mem_nil, or_false] at halt
    exact Or.inl ⟨rfl, halt.resolve_right hkeep⟩
  · rw [alternatives_eq hk, List.mem_map] at halt
    obtain ⟨s, hs, rfl⟩ := halt
    exact Or.inr ⟨hk, s, hs, rfl⟩

theorem of?_apply {k : Kind} {alt : Alternative} {n : Node} (h : of? n = some k)
    (halt : alt ∈ k.alternatives) (hkeep : alt ≠ .negated) : of? (alt.apply n) = some k := by
  rcases mem_alternatives_cases halt hkeep with ⟨-, rfl⟩ | ⟨hk, s, hs, rfl⟩
  · exact h
  · exact of?_rewrite hk h hs

theorem apply_apply {k : Kind} {alt alt' : Alternative} (halt : alt ∈ k.alternatives)
    (hkeep : alt ≠ .negated) (halt' : alt' ∈ k.alternatives) (n : Node) :
    alt'.apply (alt.apply n) = alt'.apply n := by
  rcases mem_alternatives_cases halt hkeep with ⟨-, rfl⟩ | ⟨hk, s, -, rfl⟩
  · rfl
  · rw [alternatives_eq hk, List.mem_map] at halt'
    obtain ⟨s', -, rfl⟩ := halt'
    exact apply_rewrite_rewrite k s s' n

end Kind

namespace Alternative

def swap : Alternative → Children → Children
  | operator text, cs => cs.swapToken "operator" ⟨text, text⟩
  | method name, cs => cs.swapToken "method" ⟨"identifier", name⟩
  | unchanged, cs | negated, cs => cs

theorem apply_eq_update {alt : Alternative} (hkeep : alt ≠ negated) (n : Node) :
    alt.apply n = n.update (alt.swap n.children) := by
  cases alt with
  | operator text => exact Kind.apply_rewrite_eq .comparison text n
  | method name => exact Kind.apply_rewrite_eq .filter name n
  | unchanged => rfl
  | negated => exact absurd rfl hkeep

theorem hasHoles_apply (alt : Alternative) (n : Node) : (alt.apply n).hasHoles = n.hasHoles := by
  by_cases hneg : alt = negated
  · subst hneg
    simp [apply, negation, Node.hasHoles, Children.hasHoles]
  · rw [apply_eq_update hneg]
    cases alt with
    | operator | method => exact Children.hasHoles_swapToken n.children
    | unchanged | negated => rfl

end Alternative

theorem hotspotCount_swapToken (name : String) (new : Token) (cs : Children) :
    hotspotCount (cs.swapToken name new) = hotspotCount cs := by
  rw [hotspotCount, Children.nodes_swapToken, hotspotCount]

theorem cut_swapToken (name : String) (new : Token) (next : Nat) (cs : Children) :
    cut next (cs.swapToken name new) =
      ⟨(cut next cs).children.swapToken name new, (cut next cs).hotspots, (cut next cs).top⟩ := by
  induction cs generalizing next with
  | nil => rfl
  | token f t rest ih => by_cases hf : f = some name <;> simp [cut, hf, ih]
  | hole f i rest ih => simp [cut, ih]
  | node f k s below rest _ ih =>
    cases h : Kind.of? ⟨k, s, below⟩ with
    | none => simp [cut_plain h, ih]
    | some kind => simp [cut_match h, ih]

theorem hotspotCount_swap (alt : Alternative) (cs : Children) :
    hotspotCount (alt.swap cs) = hotspotCount cs := by
  cases alt with
  | operator | method => exact hotspotCount_swapToken _ _ cs
  | unchanged | negated => rfl

theorem cut_swap (alt : Alternative) (next : Nat) (cs : Children) :
    cut next (alt.swap cs) =
      ⟨alt.swap (cut next cs).children, (cut next cs).hotspots, (cut next cs).top⟩ := by
  cases alt with
  | operator | method => exact cut_swapToken _ _ next cs
  | unchanged | negated => rfl

end Mender.Hotspot
