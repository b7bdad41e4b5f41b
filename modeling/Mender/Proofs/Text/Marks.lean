import Mathlib.Data.List.Basic

/-!
Texts put together from pieces. When two texts agree, what comes before and after a marked character
agrees if equally many marks come before it, and the pieces agree if no piece of one text starts a
different piece of the other.
-/

namespace Mender.Text

variable {α β : Type}

section Count

variable {marked : β → Bool}

theorem eq_of_append_mark {u v u' v' : List β} {x x' : β} (h : u ++ x :: v = u' ++ x' :: v')
    (hx : marked x = true) (hx' : marked x' = true)
    (hcount : u.countP marked = u'.countP marked) : u = u' ∧ x = x' ∧ v = v' := by
  induction u generalizing u' with
  | nil =>
    cases u' with
    | nil => exact ⟨rfl, List.cons.inj h⟩
    | cons y u' =>
      obtain ⟨rfl, -⟩ := List.cons.inj h
      rw [List.countP_cons_of_pos hx, List.countP_nil] at hcount
      omega
  | cons z u ih =>
    cases u' with
    | nil =>
      obtain ⟨rfl, -⟩ := List.cons.inj h
      rw [List.countP_cons_of_pos hx', List.countP_nil] at hcount
      omega
    | cons y u' =>
      obtain ⟨rfl, htail⟩ := List.cons.inj h
      rw [List.countP_cons, List.countP_cons, Nat.add_right_cancel_iff] at hcount
      obtain ⟨rfl, hrest⟩ := ih htail hcount
      exact ⟨rfl, hrest⟩

theorem countP_flatMap_congr {f g : α → List β} {ps : List α}
    (h : ∀ p ∈ ps, (f p).countP marked = (g p).countP marked) :
    (ps.flatMap f).countP marked = (ps.flatMap g).countP marked := by
  rw [List.countP_flatMap, List.countP_flatMap]
  exact congrArg List.sum (List.map_congr_left h)

theorem eq_of_flatMap_mark {f g : α → List β} {ps xs ys : List α} {q : α}
    (h : ps.flatMap f = ps.flatMap g)
    (hmarks : ∀ p ∈ ps, (f p).countP marked = (g p).countP marked) (hps : ps = xs ++ q :: ys)
    {u v u' v' : List β} {x x' : β} (hf : f q = u ++ x :: v) (hg : g q = u' ++ x' :: v')
    (hx : marked x = true) (hx' : marked x' = true) (hcount : u.countP marked = u'.countP marked) :
    xs.flatMap f ++ u = xs.flatMap g ++ u' ∧ x = x' ∧ v ++ ys.flatMap f = v' ++ ys.flatMap g := by
  subst hps
  have hxs : (xs.flatMap f).countP marked = (xs.flatMap g).countP marked :=
    countP_flatMap_congr fun p hp => hmarks p (List.mem_append_left _ hp)
  simp only [List.flatMap_append, List.flatMap_cons, hf, hg, List.append_assoc,
    List.cons_append] at h
  simp only [← List.append_assoc _ u, ← List.append_assoc _ u'] at h
  apply eq_of_append_mark h hx hx'
  rw [List.countP_append, List.countP_append, hxs, hcount]

end Count

theorem eq_of_flatMap_prefixFree {f g : α → List β} {ps : List α}
    (hfree : ∀ p ∈ ps, f p <+: g p ∨ g p <+: f p → f p = g p)
    (h : ps.flatMap f = ps.flatMap g) : ∀ p ∈ ps, f p = g p := by
  induction ps with
  | nil => exact fun p hp => by cases hp
  | cons p ps ih =>
    rw [List.forall_mem_cons] at hfree ⊢
    rw [List.flatMap_cons, List.flatMap_cons] at h
    have hleft : f p <+: g p ++ ps.flatMap g := h ▸ List.prefix_append _ _
    have hright : g p <+: g p ++ ps.flatMap g := List.prefix_append _ _
    have hhead := hfree.1 (List.prefix_or_prefix_of_prefix hleft hright)
    rw [hhead] at h
    exact ⟨hhead, ih hfree.2 (List.append_cancel_left h)⟩

end Mender.Text
