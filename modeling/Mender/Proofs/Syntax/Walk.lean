import Mathlib.Logic.Relation
import Mender.Proofs.Syntax.Tree

namespace Mender.Syntax

namespace Node

def HasChild (n m : Node) : Prop := ∃ c ∈ n.children.toList, c.node? = some m

def Contains : Node → Node → Prop := Relation.ReflTransGen HasChild

end Node

theorem Children.nodes_eq (cs : Children) :
    cs.nodes = cs.toList.flatMap fun c => (c.node?.map Node.walk).getD [] := by
  induction cs with
  | nil => rfl
  | token f t rest ih => exact ih
  | hole f i rest ih => exact ih
  | node f k s below rest _ ih =>
    rw [nodes, toList, List.flatMap_cons, ih]
    rfl

namespace Node

theorem walk_eq (n : Node) :
    n.walk = n :: n.children.toList.flatMap fun c => (c.node?.map walk).getD [] := by
  rw [walk, Children.nodes_eq]

theorem mem_walk_of_child {tree m n : Node} (hm : tree.HasChild m) (hn : n ∈ m.walk) :
    n ∈ tree.walk := by
  obtain ⟨c, hc, hcm⟩ := hm
  rw [walk_eq, List.mem_cons, List.mem_flatMap]
  right
  refine ⟨c, hc, ?_⟩
  rwa [hcm, Option.map_some, Option.getD_some]

end Node

theorem Children.exists_contains {cs : Children} {n : Node} (hn : n ∈ cs.nodes) :
    ∃ c ∈ cs.toList, ∃ m, c.node? = some m ∧ m.Contains n := by
  induction cs with
  | nil => cases hn
  | token f t rest ih =>
    obtain ⟨c, hc, hcontains⟩ := ih hn
    exact ⟨c, List.mem_cons_of_mem _ hc, hcontains⟩
  | hole f i rest ih =>
    obtain ⟨c, hc, hcontains⟩ := ih hn
    exact ⟨c, List.mem_cons_of_mem _ hc, hcontains⟩
  | node f k s below rest ihb ihr =>
    rw [nodes, List.mem_cons, List.mem_append] at hn
    rcases hn with rfl | hb | hr
    · exact ⟨_, List.mem_cons_self, _, rfl, .refl⟩
    · obtain ⟨c, hc, m, hcm, hcontains⟩ := ihb hb
      have hchild : Node.HasChild ⟨k, s, below⟩ m := ⟨c, hc, hcm⟩
      exact ⟨_, List.mem_cons_self, _, rfl, .head hchild hcontains⟩
    · obtain ⟨c, hc, hcontains⟩ := ihr hr
      exact ⟨c, List.mem_cons_of_mem _ hc, hcontains⟩

theorem Node.mem_walk {tree n : Node} : n ∈ tree.walk ↔ tree.Contains n := by
  constructor
  · intro hn
    rw [walk, List.mem_cons] at hn
    rcases hn with rfl | hn
    · exact .refl
    · obtain ⟨c, hc, m, hcm, hcontains⟩ := Children.exists_contains hn
      exact .head ⟨c, hc, hcm⟩ hcontains
  · intro h
    induction h using Relation.ReflTransGen.head_induction_on with
    | refl => exact List.mem_cons_self
    | head hchild _ ih => exact mem_walk_of_child hchild ih

theorem Children.field?_eq (name : String) (cs : Children) :
    cs.field? name = (cs.toList.find? (·.field = some name)).map (·.element) := by
  induction cs with
  | nil => rfl
  | token f t rest ih => by_cases hf : f = some name <;> simp [field?, toList, hf, ih]
  | hole f i rest ih => by_cases hf : f = some name <;> simp [field?, toList, hf, ih]
  | node f k s below rest _ ih => by_cases hf : f = some name <;> simp [field?, toList, hf, ih]

theorem Children.fieldToken?_eq_some_iff {name : String} {t : Token} {cs : Children} :
    cs.fieldToken? name = some t ↔ ∃ before after,
      cs.toList = before ++ ⟨some name, .token t⟩ :: after ∧ ∀ c ∈ before, c.field ≠ some name := by
  have hfield : cs.fieldToken? name = some t ↔ cs.field? name = some (.token t) := by
    unfold fieldToken?
    cases cs.field? name with
    | none => simp
    | some e => cases e <;> simp
  rw [hfield, field?_eq, Option.map_eq_some_iff]
  constructor
  · rintro ⟨⟨f, e⟩, hfind, rfl⟩
    obtain ⟨hf, before, after, hsplit, hbefore⟩ := List.find?_eq_some_iff_append.mp hfind
    obtain rfl := of_decide_eq_true hf
    exact ⟨before, after, hsplit, by simpa using hbefore⟩
  · rintro ⟨before, after, hsplit, hbefore⟩
    refine ⟨⟨some name, .token t⟩, ?_, rfl⟩
    rw [List.find?_eq_some_iff_append]
    exact ⟨by simp, before, after, hsplit, by simpa using hbefore⟩

end Mender.Syntax
