import Mathlib.Data.List.Infix
import Mathlib.Data.List.Flatten
import Mender.Text.Slice

namespace Mender.Text

theorem byteLength_append (cs ds : List Char) :
    byteLength (cs ++ ds) = byteLength cs + byteLength ds := by
  induction cs with
  | nil => simp [byteLength]
  | cons c cs ih => simp only [List.cons_append, byteLength, ih]; omega

theorem byteLength_eq_zero {cs : List Char} (h : byteLength cs = 0) : cs = [] := by
  cases cs with
  | nil => rfl
  | cons c cs =>
    have hc := c.utf8Size_pos
    rw [byteLength] at h
    omega

theorem dropBytes?_append (before after : List Char) :
    dropBytes? (byteLength before) (before ++ after) = some after := by
  induction before with
  | nil => rw [byteLength, dropBytes?.eq_def]; rfl
  | cons c before ih =>
    have hc := c.utf8Size_pos
    obtain ⟨n, hn⟩ : ∃ n, c.utf8Size + byteLength before = n + 1 :=
      ⟨c.utf8Size + byteLength before - 1, by omega⟩
    have hrest : n + 1 - c.utf8Size = byteLength before := by omega
    rw [byteLength, hn, List.cons_append, dropBytes?, if_pos (by omega), hrest, ih]

theorem takeBytes?_append (before after : List Char) :
    takeBytes? (byteLength before) (before ++ after) = some before := by
  induction before with
  | nil => rw [byteLength, takeBytes?.eq_def]
  | cons c before ih =>
    have hc := c.utf8Size_pos
    obtain ⟨n, hn⟩ : ∃ n, c.utf8Size + byteLength before = n + 1 :=
      ⟨c.utf8Size + byteLength before - 1, by omega⟩
    have hrest : n + 1 - c.utf8Size = byteLength before := by omega
    rw [byteLength, hn, List.cons_append, takeBytes?, if_pos (by omega), hrest, ih]
    rfl

theorem exists_of_dropBytes? {n : Nat} {cs after : List Char} (h : dropBytes? n cs = some after) :
    ∃ before, before ++ after = cs ∧ byteLength before = n := by
  induction cs generalizing n with
  | nil =>
    cases n with
    | zero => exact ⟨[], by simpa [dropBytes?] using h.symm, rfl⟩
    | succ n => cases h
  | cons c cs ih =>
    cases n with
    | zero => exact ⟨[], by simpa [dropBytes?] using h.symm, rfl⟩
    | succ n =>
      rw [dropBytes?] at h
      split at h
      · obtain ⟨before, he, hl⟩ := ih h
        refine ⟨c :: before, by rw [List.cons_append, he], ?_⟩
        rw [byteLength, hl]
        omega
      · cases h

def Boundary (cs : List Char) (n : Nat) : Prop := ∃ before, before <+: cs ∧ byteLength before = n

theorem boundary_iff {cs : List Char} {n : Nat} :
    Boundary cs n ↔ (dropBytes? n cs).isSome = true := by
  rw [Option.isSome_iff_exists]
  constructor
  · rintro ⟨before, ⟨after, rfl⟩, rfl⟩
    exact ⟨after, dropBytes?_append before after⟩
  · rintro ⟨after, h⟩
    obtain ⟨before, he, hl⟩ := exists_of_dropBytes? h
    exact ⟨before, ⟨after, he⟩, hl⟩

instance (cs : List Char) (n : Nat) : Decidable (Boundary cs n) :=
  decidable_of_iff ((dropBytes? n cs).isSome = true) boundary_iff.symm

theorem boundary_zero (cs : List Char) : Boundary cs 0 := ⟨[], List.nil_prefix, rfl⟩

theorem boundary_byteLength (cs : List Char) : Boundary cs (byteLength cs) :=
  ⟨cs, List.prefix_refl cs, rfl⟩

theorem Boundary.le {cs : List Char} {n : Nat} (h : Boundary cs n) : n ≤ byteLength cs := by
  obtain ⟨before, ⟨after, rfl⟩, rfl⟩ := h
  rw [byteLength_append]
  omega

theorem Boundary.max {cs : List Char} {m n : Nat} (hm : Boundary cs m) (hn : Boundary cs n) :
    Boundary cs (max m n) := by
  rcases Nat.le_total m n with h | h
  · rwa [Nat.max_eq_right h]
  · rwa [Nat.max_eq_left h]

def between (cs : List Char) (start stop : Nat) : List Char := (slice? cs start stop).getD []

theorem slice?_of_append (before text after : List Char) :
    slice? (before ++ text ++ after) (byteLength before) (byteLength (before ++ text)) =
      some text := by
  have hstop : byteLength (before ++ text) - byteLength before = byteLength text := by
    rw [byteLength_append]
    omega
  rw [slice?, if_pos (by rw [byteLength_append]; omega), hstop, List.append_assoc,
    dropBytes?_append, Option.bind_some, takeBytes?_append]

theorem between_of_append (before text after : List Char) :
    between (before ++ text ++ after) (byteLength before) (byteLength (before ++ text)) = text := by
  rw [between, slice?_of_append, Option.getD_some]

theorem between_of_le {cs : List Char} {start stop : Nat} (h : stop ≤ start) :
    between cs start stop = [] := by
  rw [between, slice?]
  split
  · rw [Nat.sub_eq_zero_of_le h]
    cases dropBytes? start cs with
    | none => rfl
    | some after => rw [Option.bind_some, takeBytes?.eq_def]; rfl
  · rfl

theorem between_nil (start stop : Nat) : between [] start stop = [] := by
  rw [between, slice?]
  split
  · cases start with
    | zero =>
      cases stop with
      | zero => rfl
      | succ stop => rfl
    | succ start => rfl
  · rfl

theorem between_byteLength (cs : List Char) : between cs 0 (byteLength cs) = cs := by
  have h := between_of_append [] cs []
  rwa [List.nil_append, List.append_nil] at h

theorem prefix_of_byteLength_le {cs p q : List Char} (hp : p <+: cs) (hq : q <+: cs)
    (h : byteLength p ≤ byteLength q) : p <+: q := by
  rcases List.prefix_or_prefix_of_prefix hp hq with hpq | ⟨r, rfl⟩
  · exact hpq
  · rw [byteLength_append] at h
    have hr : r = [] := byteLength_eq_zero (by omega)
    rw [hr, List.append_nil]

section Boundary

variable {cs : List Char} {a b m : Nat}

theorem exists_between (ha : Boundary cs a) (hb : Boundary cs b) (hab : a ≤ b) :
    ∃ front back, cs = front ++ between cs a b ++ back ∧ byteLength front = a ∧
      byteLength (front ++ between cs a b) = b := by
  obtain ⟨p, hp, rfl⟩ := ha
  obtain ⟨q, hq, rfl⟩ := hb
  obtain ⟨x, rfl⟩ := prefix_of_byteLength_le hp hq hab
  obtain ⟨y, rfl⟩ := hq
  refine ⟨p, y, ?_, rfl, ?_⟩
  · rw [between_of_append]
  · rw [between_of_append]

theorem between_append (ha : Boundary cs a) (hm : Boundary cs m) (hb : Boundary cs b)
    (ham : a ≤ m) (hmb : m ≤ b) : between cs a m ++ between cs m b = between cs a b := by
  obtain ⟨p, hp, rfl⟩ := ha
  obtain ⟨q, hq, rfl⟩ := hm
  obtain ⟨r, hr, rfl⟩ := hb
  obtain ⟨x, rfl⟩ := prefix_of_byteLength_le hp hq ham
  obtain ⟨y, rfl⟩ := prefix_of_byteLength_le hq hr hmb
  obtain ⟨z, rfl⟩ := hr
  have hx : between (p ++ x ++ y ++ z) (byteLength p) (byteLength (p ++ x)) = x := by
    rw [List.append_assoc _ y z]
    exact between_of_append p x (y ++ z)
  have hy : between (p ++ x ++ y ++ z) (byteLength (p ++ x)) (byteLength (p ++ x ++ y)) = y :=
    between_of_append (p ++ x) y z
  have hxy : between (p ++ x ++ y ++ z) (byteLength p) (byteLength (p ++ x ++ y)) = x ++ y := by
    rw [List.append_assoc p x y]
    exact between_of_append p (x ++ y) z
  rw [hx, hy, hxy]

/-- A way over a third offset, wherever it lies, covers the direct way. -/
theorem between_sublist (ha : Boundary cs a) (hm : Boundary cs m) (hb : Boundary cs b) :
    (between cs a b).Sublist (between cs a m ++ between cs m b) := by
  rcases Nat.le_total b a with hba | hab
  · rw [between_of_le hba]
    exact List.nil_sublist _
  · rcases Nat.le_total m a with hma | ham
    · have h := between_append hm ha hb hma hab
      rw [← h]
      exact (List.sublist_append_right _ _).trans (List.sublist_append_right _ _)
    · rcases Nat.le_total m b with hmb | hbm
      · rw [between_append ha hm hb ham hmb]
      · have h := between_append ha hb hm hab hbm
        rw [← h, List.append_assoc]
        exact List.sublist_append_left _ _

end Boundary

def bytes (s : String) : List UInt8 := s.toUTF8.data.toList

theorem bytes_eq (s : String) : bytes s = s.toList.flatMap String.utf8EncodeChar := by
  have h : s.toUTF8 = s.toList.utf8Encode := by
    rw [String.toUTF8_eq_toByteArray, ← String.toByteArray_ofList, String.ofList_toList]
  rw [bytes, h, List.utf8Encode, List.data_toByteArray]

theorem bytes_sublist {s t : String} (h : s.toList.Sublist t.toList) :
    (bytes s).Sublist (bytes t) := by
  rw [bytes_eq, bytes_eq]
  exact h.flatMap String.utf8EncodeChar

theorem length_encode (cs : List Char) :
    (cs.flatMap String.utf8EncodeChar).length = byteLength cs := by
  induction cs with
  | nil => rfl
  | cons c cs ih => simp [byteLength, ih]

theorem count_newline_encodeChar (c : Char) :
    (String.utf8EncodeChar c).count 10 = if c = '\n' then 1 else 0 := by
  have hbyte {m : Nat} (hm : m < 256) (hne : m ≠ 10) : 10 ≠ UInt8.ofNat m := by
    intro h
    have hm' := congrArg UInt8.toNat h
    rw [UInt8.toNat_ofNat_of_lt' hm] at hm'
    exact hne hm'.symm
  by_cases hc : c = '\n'
  · subst hc
    decide
  · have hv : c.val.toNat ≠ 10 := fun h => hc (Char.ext (UInt32.toNat_inj.mp h))
    have hother : 10 ∉ String.utf8EncodeChar c := by
      -- The bytes of a longer encoding all have their highest bit set.
      simp only [String.utf8EncodeChar]
      split_ifs <;> simp only [List.mem_cons, List.not_mem_nil, or_false, not_or]
      · exact hbyte (by omega) hv
      · exact ⟨hbyte (by omega) (by omega), hbyte (by omega) (by omega)⟩
      · exact ⟨hbyte (by omega) (by omega), hbyte (by omega) (by omega),
          hbyte (by omega) (by omega)⟩
      · exact ⟨hbyte (by omega) (by omega), hbyte (by omega) (by omega),
          hbyte (by omega) (by omega), hbyte (by omega) (by omega)⟩
    rw [if_neg hc, List.count_eq_zero.mpr hother]

theorem count_newline_encode (cs : List Char) :
    (cs.flatMap String.utf8EncodeChar).count 10 = cs.count '\n' := by
  induction cs with
  | nil => rfl
  | cons c cs ih =>
    rw [List.flatMap_cons, List.count_append, count_newline_encodeChar, ih, List.count_cons]
    by_cases hc : c = '\n' <;> simp [hc, Nat.add_comm]

theorem count_newline_take (front back : List Char) :
    ((bytes (.ofList (front ++ back))).take (byteLength front)).count 10 = front.count '\n' := by
  rw [bytes_eq, String.toList_ofList, List.flatMap_append, ← length_encode, List.take_left,
    count_newline_encode]

end Mender.Text
