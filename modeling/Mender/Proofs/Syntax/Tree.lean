import Mender.Syntax.Tree

namespace Mender.Syntax

namespace Children

def text (cs : Children) : String := cs.write ""

theorem write_eq (out : String) (cs : Children) : cs.write out = out ++ cs.text := by
  unfold text
  induction cs generalizing out with
  | nil => simp [write]
  | token f t rest ih => rw [write, write, ih, ih ("" ++ t.text)]; simp [String.append_assoc]
  | hole f i rest ih => rw [write, write, ih, ih ("" ++ holeMark i)]; simp [String.append_assoc]
  | node f k s below rest ihb ihr =>
    rw [write, write, ihr, ihr (below.write ""), ihb, String.append_assoc]

@[simp] theorem text_nil : nil.text = "" := rfl

@[simp] theorem text_token (f : Option String) (t : Token) (rest : Children) :
    (token f t rest).text = t.text ++ rest.text := by
  simp [text, write, write_eq t.text]

@[simp] theorem text_hole (f : Option String) (i : Nat) (rest : Children) :
    (hole f i rest).text = holeMark i ++ rest.text := by
  simp [text, write, write_eq (holeMark i)]

@[simp] theorem text_node (f : Option String) (k : String) (s : Option Span) (below rest : Children) :
    (node f k s below rest).text = below.text ++ rest.text := by
  simp [text, write, write_eq (below.write "")]

@[simp] theorem nil_append (r : Children) : nil ++ r = r := rfl

@[simp] theorem token_append (f : Option String) (t : Token) (rest r : Children) :
    token f t rest ++ r = token f t (rest ++ r) := rfl

@[simp] theorem hole_append (f : Option String) (i : Nat) (rest r : Children) :
    hole f i rest ++ r = hole f i (rest ++ r) := rfl

@[simp] theorem node_append (f : Option String) (k : String) (s : Option Span)
    (below rest r : Children) : node f k s below rest ++ r = node f k s below (rest ++ r) := rfl

@[simp] theorem text_append (cs r : Children) : (cs ++ r).text = cs.text ++ r.text := by
  induction cs with
  | nil => simp
  | token f t rest ih => simp [ih, String.append_assoc]
  | hole f i rest ih => simp [ih, String.append_assoc]
  | node f k s below rest _ ih => simp [ih, String.append_assoc]

def fieldToken? (name : String) (cs : Children) : Option Token :=
  match cs.field? name with
  | some (.token t) => some t
  | _ => none

@[simp] theorem fieldToken?_nil (name : String) : nil.fieldToken? name = none := rfl

@[simp] theorem fieldToken?_token (name : String) (f : Option String) (t : Token)
    (rest : Children) :
    (token f t rest).fieldToken? name = if f = some name then some t else rest.fieldToken? name := by
  by_cases h : f = some name <;> simp [fieldToken?, field?, h]

@[simp] theorem fieldToken?_hole (name : String) (f : Option String) (i : Nat) (rest : Children) :
    (hole f i rest).fieldToken? name = if f = some name then none else rest.fieldToken? name := by
  by_cases h : f = some name <;> simp [fieldToken?, field?, h]

@[simp] theorem fieldToken?_node (name : String) (f : Option String) (k : String)
    (s : Option Span) (below rest : Children) :
    (node f k s below rest).fieldToken? name =
      if f = some name then none else rest.fieldToken? name := by
  by_cases h : f = some name <;> simp [fieldToken?, field?, h]

/-- The matcher looks for the first child under a name, the rewrite for the first token under it;
where the matcher finds a token, the rewrite replaces that one and nothing else. -/
theorem split_of_fieldToken? {name : String} {t : Token} {cs : Children}
    (h : cs.fieldToken? name = some t) :
    ∃ before after, cs = before ++ token (some name) t after ∧
      ∀ new, cs.replaceToken? name new = some (before ++ token (some name) new after) := by
  induction cs with
  | nil => simp at h
  | token f u rest ih =>
    by_cases hf : f = some name
    · have hu : u = t := by simpa [hf] using h
      exact ⟨nil, rest, by simp [hf, hu], fun new => by simp [replaceToken?, hf]⟩
    · simp only [fieldToken?_token, hf, if_false] at h
      obtain ⟨before, after, he, hr⟩ := ih h
      exact ⟨token f u before, after, by simp [he], fun new => by simp [replaceToken?, hf, hr]⟩
  | hole f i rest ih =>
    by_cases hf : f = some name
    · simp [hf] at h
    · simp only [fieldToken?_hole, hf, if_false] at h
      obtain ⟨before, after, he, hr⟩ := ih h
      exact ⟨hole f i before, after, by simp [he], fun new => by simp [replaceToken?, hr]⟩
  | node f k s below rest _ ih =>
    by_cases hf : f = some name
    · simp [hf] at h
    · simp only [fieldToken?_node, hf, if_false] at h
      obtain ⟨before, after, he, hr⟩ := ih h
      exact ⟨node f k s below before, after, by simp [he], fun new => by simp [replaceToken?, hr]⟩

theorem replaceToken?_self {name : String} {t : Token} {cs : Children}
    (h : cs.fieldToken? name = some t) : cs.replaceToken? name t = some cs := by
  obtain ⟨before, after, he, hr⟩ := split_of_fieldToken? h
  rw [hr t, ← he]

theorem text_replaceToken? {name : String} {t new : Token} {cs : Children}
    (h : cs.fieldToken? name = some t) (hn : new.text = t.text) :
    ∃ cs', cs.replaceToken? name new = some cs' ∧ cs'.text = cs.text := by
  obtain ⟨before, after, he, hr⟩ := split_of_fieldToken? h
  exact ⟨_, hr new, by simp [he, hn]⟩

def swapToken (name : String) (new : Token) (cs : Children) : Children :=
  (cs.replaceToken? name new).getD cs

section SwapToken

variable {name : String} {new : Token}

@[simp] theorem swapToken_nil : nil.swapToken name new = nil := rfl

@[simp] theorem swapToken_token (f : Option String) (t : Token) (rest : Children) :
    (token f t rest).swapToken name new =
      if f = some name then token f new rest else token f t (rest.swapToken name new) := by
  by_cases hf : f = some name
  · simp [swapToken, replaceToken?, hf]
  · cases h : rest.replaceToken? name new <;> simp [swapToken, replaceToken?, hf, h]

@[simp] theorem swapToken_hole (f : Option String) (i : Nat) (rest : Children) :
    (hole f i rest).swapToken name new = hole f i (rest.swapToken name new) := by
  cases h : rest.replaceToken? name new <;> simp [swapToken, replaceToken?, h]

@[simp] theorem swapToken_node (f : Option String) (k : String) (s : Option Span)
    (below rest : Children) :
    (node f k s below rest).swapToken name new = node f k s below (rest.swapToken name new) := by
  cases h : rest.replaceToken? name new <;> simp [swapToken, replaceToken?, h]

theorem swapToken_swapToken (cs : Children) (last : Token) :
    (cs.swapToken name new).swapToken name last = cs.swapToken name last := by
  induction cs with
  | nil => rfl
  | token f t rest ih => by_cases hf : f = some name <;> simp [hf, ih]
  | hole f i rest ih => simp [ih]
  | node f k s below rest _ ih => simp [ih]

theorem field?_swapToken_of_ne {other : String} (hne : other ≠ name) (cs : Children) :
    (cs.swapToken name new).field? other = cs.field? other := by
  induction cs with
  | nil => rfl
  | token f t rest ih =>
    by_cases hf : f = some name
    · have hother : f ≠ some other := fun h => hne (Option.some.inj (h.symm.trans hf))
      rw [swapToken_token, if_pos hf, field?, field?, if_neg hother, if_neg hother]
    · simp [hf, field?, ih]
  | hole f i rest ih => simp [field?, ih]
  | node f k s below rest _ ih => simp [field?, ih]

theorem fieldToken?_swapToken {t : Token} {cs : Children} (h : cs.fieldToken? name = some t) :
    (cs.swapToken name new).fieldToken? name = some new := by
  induction cs with
  | nil => cases h
  | token f u rest ih =>
    by_cases hf : f = some name
    · simp [hf]
    · simp only [fieldToken?_token, hf, if_false] at h
      simp [hf, ih h]
  | hole f i rest ih =>
    by_cases hf : f = some name
    · simp [hf] at h
    · simp only [fieldToken?_hole, hf, if_false] at h
      simp [hf, ih h]
  | node f k s below rest _ ih =>
    by_cases hf : f = some name
    · simp [hf] at h
    · simp only [fieldToken?_node, hf, if_false] at h
      simp [hf, ih h]

theorem hasHoles_swapToken (cs : Children) :
    (cs.swapToken name new).hasHoles = cs.hasHoles := by
  induction cs with
  | nil => rfl
  | token f t rest ih => by_cases hf : f = some name <;> simp [hf, hasHoles, ih]
  | hole f i rest => simp [hasHoles]
  | node f k s below rest _ ih => simp [hasHoles, ih]

theorem nodes_swapToken (cs : Children) : (cs.swapToken name new).nodes = cs.nodes := by
  induction cs with
  | nil => rfl
  | token f t rest ih => by_cases hf : f = some name <;> simp [hf, nodes, ih]
  | hole f i rest ih => simp [nodes, ih]
  | node f k s below rest _ ih => simp [nodes, ih]

end SwapToken

end Children

namespace Node

theorem text_eq (n : Node) : n.text = n.children.text := rfl

theorem fieldText?_eq (n : Node) (name : String) :
    n.fieldText? name = (n.children.fieldToken? name).map (·.text) := by
  unfold fieldText? field? Children.fieldToken?
  cases n.children.field? name with
  | none => rfl
  | some e => cases e <;> rfl

end Node

end Mender.Syntax
