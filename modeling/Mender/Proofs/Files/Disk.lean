import Mathlib.Tactic.SplitIfs
import Mender.Files.Disk

namespace Mender.Files

/-- The place that names lead to if every directory on the way is there. -/
def follow (base : Place) : List String → Place
  | [] => base
  | name :: names =>
    if name = "." then follow base names
    else if name = ".." then follow base.dropLast names
    else follow (base ++ [name]) names

def placeOf (path : String) : Place := follow [] (parts path)

theorem startsWith_join {base p : String} (hbase : base.startsWith "/" = true) :
    (join base p).startsWith "/" = true := by
  rw [String.startsWith_string_iff] at hbase
  rw [join]
  by_cases hp : (p.startsWith "/" || base = "") = true
  · rw [if_pos hp]
    rcases Bool.or_eq_true_iff.mp hp with hp | hp
    · exact hp
    · rw [of_decide_eq_true hp] at hbase
      exact absurd hbase (by decide)
  · rw [if_neg hp]
    split
    · rw [String.startsWith_string_iff, String.toList_append]
      exact hbase.trans (List.prefix_append _ _)
    · rw [String.startsWith_string_iff, String.append_assoc, String.toList_append]
      exact hbase.trans (List.prefix_append _ _)

namespace Disk

variable {s s' : Disk} {p q r : Place} {e : Entry} {names : List String} {path text : String}

theorem entry?_device (s : Disk) : s.entry? device = some (.file .empty) := rfl

theorem entry?_put_self (hp : p ≠ []) (hdevice : p ≠ device) :
    entry? (s.put p e) p = some e := by
  simp [ entry?, put, hp, hdevice]

theorem entry?_put_of_ne (hq : q ≠ p) : entry? (s.put p e) q = s.entry? q := by
  rw [ entry?, entry?]
  split_ifs
  · rfl
  · rfl
  · rw [put, List.find?_cons_of_neg (by simpa using Ne.symm hq), List.find?_filter]
    congr 2
    funext x
    by_cases hx : x.1 = q
    · simp [hx, hq]
    · simp [hx]

theorem follow_of_walk (h : s.walk p names = .ok q) : q = follow p names := by
  induction names generalizing p with
  | nil => exact (Except.ok.inj h).symm
  | cons name names ih =>
    rw [walk] at h
    rw [follow]
    split at h
    · cases h
    · split_ifs at h ⊢
      · exact ih h
      · exact ih h
      · exact ih h
    · cases h

/-- A walk passes through directories, so it stays as it is when something else is replaced. -/
theorem walk_put (hr : s.entry? r ≠ some .directory) (h : s.walk p names = .ok q) :
    (s.put r e).walk p names = .ok q := by
  induction names generalizing p with
  | nil => exact h
  | cons name names ih =>
    rw [walk] at h ⊢
    split at h
    · cases h
    · next hp =>
      have hpr : p ≠ r := fun hpr => hr (hpr ▸ hp)
      rw [entry?_put_of_ne hpr, hp]
      dsimp only
      split_ifs at h ⊢
      · exact ih h
      · exact ih h
      · exact ih h
    · cases h

theorem locate_put (hr : s.entry? r ≠ some .directory) (h : s.locate path = .ok p) :
    (s.put r e).locate path = .ok p := by
  rw [locate] at h ⊢
  split_ifs at h ⊢
  · exact walk_put hr h
  · exact walk_put hr h

theorem place_of_locate (hpath : path.startsWith "/" = true) (h : s.locate path = .ok p) :
    p = placeOf path := by
  rw [locate] at h
  split_ifs at h
  exact follow_of_walk h

theorem locate_name {name : String} (hparts : parts path = [name])
    (hplain : name ≠ "." ∧ name ≠ ".." ∧ ¬nameLimit < name.utf8ByteSize)
    (hpath : path ≠ "" ∧ path.contains '\x00' = false ∧ ¬pathLimit < path.utf8ByteSize)
    (hroot : path.startsWith "/" = true ∨ s.here = []) : s.locate path = .ok [name] := by
  obtain ⟨hdot, hup, hshort⟩ := hplain
  obtain ⟨hne, hzero, hlength⟩ := hpath
  have hstart : (if path.startsWith "/" then [] else s.here) = [] := by
    split
    · rfl
    · exact hroot.resolve_left (by assumption)
  rw [locate, if_neg hne, hzero, if_neg Bool.false_ne_true, if_neg hlength, hstart, hparts, walk,
    entry?, if_pos rfl]
  dsimp only
  rw [if_neg hdot, if_neg hup, if_neg hshort]
  rfl

theorem target_eq_ok_iff : s.target path = .ok p ↔
    s.locate path = .ok p ∧ s.entry? p ≠ some .directory ∧ path.endsWith "/" = false := by
  rw [target]
  cases hp : s.locate path with
  | error e => exact iff_of_false (fun h => by cases h) fun h => by cases h.1
  | ok q =>
    dsimp only [bind, Except.bind]
    cases hend : path.endsWith "/" with
    | true =>
      refine iff_of_false (fun h => ?_) fun h => by cases h.2.2
      split at h <;> cases h
    | false =>
      constructor
      · intro h
        split at h
        · next he =>
          cases h
          exact ⟨rfl, by rw [he]; simp, rfl⟩
        · cases h
        · next hdir he =>
          cases h
          exact ⟨rfl, fun hc => hdir (Option.some.inj (he.symm.trans hc)), rfl⟩
      · rintro ⟨h, hdir, -⟩
        cases h
        split
        · rfl
        · next he => exact absurd he hdir
        · rfl

theorem lookup_eq (hp : s.locate path = .ok p) (hend : path.endsWith "/" = false)
    (he : s.entry? p = some e) : s.lookup path = .ok (p, e) := by
  rw [lookup, hp]
  simp only [bind, Except.bind, he]
  cases e with
  | directory => rfl
  | file content => rw [hend]; rfl

theorem lookup_eq_notFound (hp : s.locate path = .ok p) (he : s.entry? p = none) :
    s.lookup path = .error .notFound := by
  rw [lookup, hp]
  simp only [bind, Except.bind, he]

theorem fromUTF8?_toUTF8 (text : String) : String.fromUTF8? text.toUTF8 = some text := by
  rw [String.fromUTF8?, String.toUTF8_eq_toByteArray, dif_pos text.isValidUTF8]
  rfl

theorem readText_of_file (hp : s.locate path = .ok p) (hend : path.endsWith "/" = false)
    (he : s.entry? p = some (.file text.toUTF8)) : s.readText path = .ok text := by
  rw [readText, read, lookup_eq hp hend he]
  simp only [bind, Except.bind, pure, Except.pure, fromUTF8?_toUTF8]

theorem exists_target (h : s.writeText path text = .ok s') :
    ∃ p, s.target path = .ok p ∧ s.store p text.toUTF8 = s' := by
  rw [writeText, write] at h
  cases hp : s.target path with
  | error e =>
    rw [hp] at h
    cases h
  | ok p =>
    rw [hp] at h
    exact ⟨p, rfl, Except.ok.inj h⟩

theorem eq_empty_of_device (hpath : path.startsWith "/" = true) (h : s.readText path = .ok text)
    (hdevice : placeOf path = device) : text = "" := by
  cases hp : s.locate path with
  | error e =>
    rw [readText, read, lookup, hp] at h
    cases h
  | ok p =>
    have hentry : s.entry? p = some (.file "".toUTF8) := by
      rw [place_of_locate hpath hp, hdevice]
      exact entry?_device s
    cases hend : path.endsWith "/" with
    | true =>
      rw [readText, read, lookup, hp] at h
      simp only [bind, Except.bind, hentry, hend] at h
      cases h
    | false =>
      rw [readText_of_file hp hend hentry] at h
      exact (Except.ok.inj h).symm

/-- What was written reads back, but the device keeps nothing. -/
theorem readText_writeText (hpath : path.startsWith "/" = true)
    (h : s.writeText path text = .ok s') (hempty : placeOf path = device → text = "") :
    s'.readText path = .ok text := by
  obtain ⟨p, hp, rfl⟩ := exists_target h
  obtain ⟨hlocate, hdir, hend⟩ := target_eq_ok_iff.mp hp
  have hplace := place_of_locate hpath hlocate
  rw [store]
  split_ifs with hdevice
  · subst hdevice
    rw [hempty hplace.symm]
    exact readText_of_file hlocate hend (entry?_device s)
  · have hroot : p ≠ [] := fun hc => hdir (by rw [hc, entry?, if_pos rfl])
    exact readText_of_file (locate_put hdir hlocate) hend (entry?_put_self hroot hdevice)

theorem entry?_writeText (hpath : path.startsWith "/" = true)
    (h : s.writeText path text = .ok s') (hq : q ≠ placeOf path) : s'.entry? q = s.entry? q := by
  obtain ⟨p, hp, rfl⟩ := exists_target h
  have hplace := place_of_locate hpath (target_eq_ok_iff.mp hp).1
  rw [store]
  split_ifs
  · rfl
  · exact entry?_put_of_ne (hplace ▸ hq)

theorem directory_of_writeText (h : s.writeText path text = .ok s')
    (hq : s'.entry? q = some .directory) : s.entry? q = some .directory := by
  obtain ⟨p, hp, rfl⟩ := exists_target h
  rw [store] at hq
  split_ifs at hq with hdevice
  · exact hq
  · by_cases hqp : q = p
    · have hroot : p ≠ [] := fun hc => (target_eq_ok_iff.mp hp).2.1 (by rw [hc, entry?, if_pos rfl])
      rw [hqp, entry?_put_self hroot hdevice] at hq
      cases hq
    · rwa [entry?_put_of_ne hqp] at hq

end Disk

end Mender.Files
