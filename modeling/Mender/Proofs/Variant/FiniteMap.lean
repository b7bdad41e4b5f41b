import Mender.Proofs.Variant.Enumeration

namespace Mender.Variant

namespace Assignment

def LastSet (sets : List (Nat × Nat)) (id c : Nat) : Prop :=
  ∃ before after, sets = before ++ (id, c) :: after ∧ ∀ p ∈ after, p.1 ≠ id

theorem not_lastSet_nil (id c : Nat) : ¬LastSet [] id c := by
  rintro ⟨before, after, h, -⟩
  cases before <;> cases h

theorem lastSet_concat {sets : List (Nat × Nat)} {id' c' id c : Nat} :
    LastSet (sets ++ [(id', c')]) id c ↔ if id = id' then c' = c else LastSet sets id c := by
  constructor
  · rintro ⟨before, after, h, hafter⟩
    induction after using List.reverseRecOn with
    | nil =>
      obtain ⟨-, hlast⟩ := List.append_inj' h rfl
      cases hlast
      rw [if_pos rfl]
    | append_singleton after last _ =>
      rw [← List.cons_append, ← List.append_assoc] at h
      obtain ⟨rfl, hlast⟩ := List.append_inj' h rfl
      cases hlast
      rw [List.forall_mem_append, List.forall_mem_singleton] at hafter
      rw [if_neg (Ne.symm hafter.2)]
      exact ⟨before, after, rfl, hafter.1⟩
  · by_cases hid : id = id'
    · subst hid
      rw [if_pos rfl]
      rintro rfl
      exact ⟨sets, [], rfl, List.forall_mem_nil _⟩
    · rw [if_neg hid]
      rintro ⟨before, after, rfl, hafter⟩
      refine ⟨before, after ++ [(id', c')], by simp, ?_⟩
      rw [List.forall_mem_append, List.forall_mem_singleton]
      exact ⟨hafter, Ne.symm hid⟩

theorem setAll_concat (a : Assignment) (sets : List (Nat × Nat)) (id c : Nat) :
    a.setAll (sets ++ [(id, c)]) = (a.setAll sets).set id c := List.foldl_concat ..

structure Records (slots : Nat) (sets : List (Nat × Nat)) (a : Assignment) : Prop where
  choice : ∀ id c, a.choice? id = some c ↔ LastSet sets id c
  never : ∀ id, a.choice? id = none ↔ ∀ p ∈ sets, p.1 ≠ id
  length : (slots :: sets.map (·.1 + 1)).max? = some a.choices.length

namespace Records

variable {slots : Nat} {sets : List (Nat × Nat)} {a : Assignment}

theorem empty (slots : Nat) : Records slots [] (empty slots) := by
  have hlength : (Assignment.empty slots).choices.length = slots := List.length_replicate
  constructor
  · intro id c
    simp [choice?_empty, not_lastSet_nil]
  · intro id
    simp [choice?_empty]
  · rw [hlength]
    rfl

theorem step (h : Records slots sets a) (id c : Nat) :
    Records slots (sets ++ [(id, c)]) (a.set id c) := by
  constructor
  · intro id' c'
    rw [choice?_set, lastSet_concat]
    by_cases hid : id' = id
    · rw [if_pos hid, if_pos hid, Option.some_inj]
    · rw [if_neg hid, if_neg hid, h.choice]
  · intro id'
    rw [choice?_set, List.forall_mem_append, List.forall_mem_singleton]
    by_cases hid : id' = id
    · simp [hid]
    · simp [hid, Ne.symm hid, h.never]
  · have hlength := h.length
    rw [List.max?_cons', Option.some_inj] at hlength
    rw [List.map_append, List.max?_cons', List.map_singleton, List.foldl_concat, hlength,
      length_set]

end Records

theorem records (slots : Nat) (sets : List (Nat × Nat)) :
    Records slots sets ((empty slots).setAll sets) := by
  induction sets using List.reverseRecOn with
  | nil => exact .empty slots
  | append_singleton sets p ih =>
    rw [setAll_concat]
    exact ih.step p.1 p.2

theorem set_comm (a : Assignment) {id id' : Nat} (h : id ≠ id') (c c' : Nat) :
    (a.set id c).set id' c' = (a.set id' c').set id c := by
  apply ext_choice?
  · simp only [length_set]
    omega
  · intro i _
    simp only [choice?_set]
    by_cases hi : i = id
    · subst hi
      rw [if_neg h, if_pos rfl, if_pos rfl]
    · rw [if_neg hi, if_neg hi]

theorem eq_iff_choice? {a b : Assignment} (hl : a.choices.length = b.choices.length) :
    a = b ↔ ∀ id, a.choice? id = b.choice? id :=
  ⟨fun h _ => h ▸ rfl, fun h => ext_choice? hl fun id _ => h id⟩

/-- After any sets from any number of slots the choice of an id is its last one, and the length is
the least that the slots and the ids allow. The listing of an assignment is what it chooses in the
order of ids, sets of different ids can be made in either order, and of one length only equal
assignments choose alike. -/
theorem finite_map (slots : Nat) (sets : List (Nat × Nat)) :
    Records slots sets ((empty slots).setAll sets) ∧
    ∀ a : Assignment,
      (∀ id c, (id, c) ∈ a.toList ↔ a.choice? id = some c) ∧
      a.toList.Pairwise (fun p q => p.1 < q.1) ∧
      (∀ id id' c c', id ≠ id' → (a.set id c).set id' c' = (a.set id' c').set id c) ∧
      ∀ b : Assignment, a.choices.length = b.choices.length →
        (a = b ↔ ∀ id, a.choice? id = b.choice? id) := by
  refine ⟨records slots sets, fun a => ⟨fun _ _ => mem_toList, a.toList_ascending, ?_, ?_⟩⟩
  · exact fun _ _ c c' hne => a.set_comm hne c c'
  · exact fun _ hl => eq_iff_choice? hl

theorem finite_map_overwritten :
    let a := (empty 1).setAll [(3, 1), (0, 2), (3, 0)]
    let b := (empty 4).setAll [(0, 2), (3, 0)]
    a.choice? 3 = some 0 ∧ a.choice? 2 = none ∧ (3, 0) ∈ a.toList ∧
      (3 ≠ 0 ∧ (a.set 3 2).set 0 1 = (a.set 0 1).set 3 2) ∧
      (a.choices.length = b.choices.length ∧ ∀ id, a.choice? id = b.choice? id) := by
  intro a b
  obtain ⟨hrecords, hmap⟩ := finite_map 1 [(3, 1), (0, 2), (3, 0)]
  obtain ⟨hlisting, -, hcomm, hext⟩ := hmap a
  have hlast : LastSet [(3, 1), (0, 2), (3, 0)] 3 0 :=
    ⟨[(3, 1), (0, 2)], [], rfl, List.forall_mem_nil _⟩
  have hchoice : a.choice? 3 = some 0 := (hrecords.choice 3 0).mpr hlast
  have hlength : a.choices.length = b.choices.length := by decide
  exact ⟨hchoice, (hrecords.never 2).mpr (by decide), (hlisting 3 0).mpr hchoice,
    ⟨by decide, hcomm 3 0 2 1 (by decide)⟩, hlength, (hext b hlength).mp (by decide)⟩

end Assignment

end Mender.Variant
