import Mathlib.Data.List.Infix
import Mender.Suite.Discovery
import Mender.Proofs.Syntax.Walk

namespace Mender.Suite

open Syntax

def Defines (n : Node) (name : String) : Prop :=
  n.kind = "method" ∧ ∃ before t after,
    n.children.toList = before ++ ⟨some "name", .token t⟩ :: after ∧
      (∀ c ∈ before, c.field ≠ some "name") ∧ t.text = name

def DefinedBefore (walk : List Node) (x y : String) : Prop :=
  ∃ front, front <+: walk ∧ (∃ n ∈ front, Defines n x) ∧ ∀ n ∈ front, ¬Defines n y

def nameOf? (n : Node) : Option String := if n.kind = "method" then n.fieldText? "name" else none

theorem nameOf?_eq_some_iff {n : Node} {name : String} :
    nameOf? n = some name ↔ Defines n name := by
  have htext : n.fieldText? "name" = some name ↔ ∃ before t after,
      n.children.toList = before ++ ⟨some "name", .token t⟩ :: after ∧
        (∀ c ∈ before, c.field ≠ some "name") ∧ t.text = name := by
    rw [Node.fieldText?_eq, Option.map_eq_some_iff]
    simp only [Children.fieldToken?_eq_some_iff]
    constructor
    · rintro ⟨t, ⟨before, after, hsplit, hbefore⟩, rfl⟩
      exact ⟨before, t, after, hsplit, hbefore, rfl⟩
    · rintro ⟨before, t, after, hsplit, hbefore, rfl⟩
      exact ⟨t, ⟨before, after, hsplit, hbefore⟩, rfl⟩
  rw [nameOf?, Defines, ← htext]
  by_cases hk : n.kind = "method" <;> simp [hk]

theorem Defines.unique {n : Node} {x y : String} (hx : Defines n x) (hy : Defines n y) : x = y := by
  rw [← nameOf?_eq_some_iff] at hx hy
  exact Option.some.inj (hx.symm.trans hy)

def collect (p : String → Bool) (names : List String) (n : Node) : List String :=
  match nameOf? n with
  | some name => if p name = true ∧ name ∉ names then names ++ [name] else names
  | none => names

theorem methodNames_eq (tree : Node) : methodNames tree = tree.walk.filterMap nameOf? := by
  rw [methodNames, List.filterMap_filter]
  apply List.filterMap_congr
  intro n _
  simp [nameOf?]

theorem eraseDups_concat (names : List String) (name : String) :
    (names ++ [name]).eraseDups =
      if name ∈ names then names.eraseDups else names.eraseDups ++ [name] := by
  rw [List.eraseDups_append]
  by_cases h : name ∈ names <;> simp [List.removeAll, List.eraseDups_cons, h]

theorem testNames_eq_foldl (tree : Node) (p : String → Bool) :
    testNames tree p = tree.walk.foldl (collect p) [] := by
  have hnodes (ns : List Node) :
      ((ns.filterMap nameOf?).filter p).eraseDups = ns.foldl (collect p) [] := by
    induction ns using List.reverseRecOn with
    | nil => rfl
    | append_singleton ns n ih =>
      rw [List.foldl_concat, ← ih, List.filterMap_append, List.filter_append, collect]
      cases hn : nameOf? n with
      | none => simp [hn]
      | some name =>
        have hlast : [n].filterMap nameOf? = [name] := by simp [hn]
        rw [hlast]
        dsimp only
        by_cases hp : p name = true
        · rw [List.filter_cons_of_pos hp, List.filter_nil, eraseDups_concat]
          by_cases hmem : name ∈ (ns.filterMap nameOf?).filter p <;> simp [hmem, hp]
        · rw [List.filter_cons_of_neg hp, List.filter_nil, List.append_nil,
            if_neg (fun h => hp h.1)]
  rw [testNames, methodNames_eq, hnodes]

structure Collected (p : String → Bool) (visited : List Node) (names : List String) : Prop where
  nodup : names.Nodup
  mem : ∀ name, name ∈ names ↔ p name = true ∧ ∃ n ∈ visited, Defines n name
  ordered : names.Pairwise (DefinedBefore visited)

namespace Collected

variable {p : String → Bool} {visited : List Node} {names : List String}

theorem ordered_append (h : Collected p visited names) (n : Node) :
    names.Pairwise (DefinedBefore (visited ++ [n])) := by
  apply h.ordered.imp
  rintro x y ⟨front, hfront, hxy⟩
  exact ⟨front, hfront.trans (List.prefix_append _ _), hxy⟩

theorem skip (h : Collected p visited names) {n : Node}
    (hn : ∀ name, Defines n name → p name = true → name ∈ names) :
    Collected p (visited ++ [n]) names := by
  refine ⟨h.nodup, fun name => ?_, h.ordered_append n⟩
  constructor
  · intro hname
    obtain ⟨hp, m, hm, hdef⟩ := (h.mem name).mp hname
    exact ⟨hp, m, List.mem_append_left _ hm, hdef⟩
  · rintro ⟨hp, m, hm, hdef⟩
    rcases List.mem_append.mp hm with hm | hm
    · exact (h.mem name).mpr ⟨hp, m, hm, hdef⟩
    · rw [List.mem_singleton.mp hm] at hdef
      exact hn name hdef hp

theorem add (h : Collected p visited names) {n : Node} {new : String} (hn : Defines n new)
    (hp : p new = true) (hnew : new ∉ names) :
    Collected p (visited ++ [n]) (names ++ [new]) := by
  have hfresh : ∀ m ∈ visited, ¬Defines m new := fun m hm hdef =>
    hnew ((h.mem new).mpr ⟨hp, m, hm, hdef⟩)
  constructor
  · rw [List.nodup_append]
    refine ⟨h.nodup, List.pairwise_singleton _ _, ?_⟩
    intro x hx y hy
    rw [List.mem_singleton.mp hy]
    exact ne_of_mem_of_not_mem hx hnew
  · intro name
    rw [List.mem_append, List.mem_singleton, h.mem name]
    constructor
    · rintro (⟨hp, m, hm, hdef⟩ | rfl)
      · exact ⟨hp, m, List.mem_append_left _ hm, hdef⟩
      · exact ⟨hp, n, List.mem_append_right _ List.mem_cons_self, hn⟩
    · rintro ⟨hp, m, hm, hdef⟩
      rcases List.mem_append.mp hm with hm | hm
      · exact .inl ⟨hp, m, hm, hdef⟩
      · rw [List.mem_singleton.mp hm] at hdef
        exact .inr (hdef.unique hn)
  · rw [List.pairwise_append]
    refine ⟨h.ordered_append n, List.pairwise_singleton _ _, ?_⟩
    intro x hx y hy
    rw [List.mem_singleton.mp hy]
    obtain ⟨-, hx⟩ := (h.mem x).mp hx
    exact ⟨visited, List.prefix_append _ _, hx, hfresh⟩

theorem step (h : Collected p visited names) (n : Node) :
    Collected p (visited ++ [n]) (collect p names n) := by
  rw [collect]
  cases hname : nameOf? n with
  | none =>
    apply h.skip
    intro name hdef
    rw [nameOf?_eq_some_iff.mpr hdef] at hname
    cases hname
  | some new =>
    have hn : Defines n new := nameOf?_eq_some_iff.mp hname
    dsimp only
    split
    · next hadd => exact h.add hn hadd.1 hadd.2
    · next hseen =>
      apply h.skip
      intro name hdef hp
      rw [hdef.unique hn] at hp ⊢
      by_contra hnew
      exact hseen ⟨hp, hnew⟩

end Collected

theorem collected (p : String → Bool) (visited : List Node) :
    Collected p visited (visited.foldl (collect p) []) := by
  induction visited using List.reverseRecOn with
  | nil => exact ⟨List.nodup_nil, by simp, List.Pairwise.nil⟩
  | append_singleton visited n ih =>
    rw [List.foldl_concat]
    exact ih.step n

def HasTest (tree : Node) (p : String → Bool) (name : String) : Prop :=
  p name = true ∧ ∃ n, tree.Contains n ∧ Defines n name

theorem mem_testNames {tree : Node} {p : String → Bool} {name : String} :
    name ∈ testNames tree p ↔ HasTest tree p name := by
  have h := (collected p tree.walk).mem name
  rw [← testNames_eq_foldl] at h
  simp only [h, HasTest, Node.mem_walk]

/-- The test names of a tree are the matching names of its methods, at any depth, each once and in
the order in which a walk first comes to them. -/
theorem testNames_exact (tree : Node) (p : String → Bool) :
    (testNames tree p).Nodup ∧
    (∀ name, name ∈ testNames tree p ↔
      p name = true ∧ ∃ n, tree.Contains n ∧ Defines n name) ∧
    (testNames tree p).Pairwise (DefinedBefore tree.walk) := by
  have h := collected p tree.walk
  rw [← testNames_eq_foldl] at h
  refine ⟨h.nodup, fun name => ?_, h.ordered⟩
  simp only [h.mem, Node.mem_walk]

end Mender.Suite
