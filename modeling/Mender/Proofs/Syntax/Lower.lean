import Mender.Syntax.Lower
import Mender.Proofs.Syntax.Tree
import Mender.Proofs.Text.Slice

namespace Mender.Syntax

open Text

/-- The range of a row runs forwards between character boundaries of the source. -/
structure Row.Placed (source : List Char) (r : Row) : Prop where
  ordered : r.start ≤ r.stop
  start : Boundary source r.start
  stop : Boundary source r.stop

instance (source : List Char) (r : Row) : Decidable (r.Placed source) :=
  decidable_of_iff (r.start ≤ r.stop ∧ Boundary source r.start ∧ Boundary source r.stop)
    ⟨fun h => ⟨h.1, h.2.1, h.2.2⟩, fun h => ⟨h.ordered, h.start, h.stop⟩⟩

def Rows.Orderly (start stop : Nat) : Rows → Prop
  | nil => start ≤ stop
  | cons r below rest =>
    start ≤ r.start ∧ below.Orderly r.start r.stop ∧ rest.Orderly r.stop stop

instance Rows.decidableOrderly (start stop : Nat) :
    (rows : Rows) → Decidable (rows.Orderly start stop)
  | nil => inferInstanceAs (Decidable (start ≤ stop))
  | cons r below rest =>
    have := decidableOrderly r.start r.stop below
    have := decidableOrderly r.stop stop rest
    inferInstanceAs (Decidable (start ≤ r.start ∧ below.Orderly r.start r.stop ∧
      rest.Orderly r.stop stop))

def Parsed.Orderly (p : Parsed) : Prop := p.below.Orderly p.root.start p.root.stop

instance (p : Parsed) : Decidable p.Orderly :=
  inferInstanceAs (Decidable (p.below.Orderly p.root.start p.root.stop))

theorem Rows.Orderly.le {start stop : Nat} {rows : Rows} (h : rows.Orderly start stop) :
    start ≤ stop := by
  induction rows generalizing start stop with
  | nil => exact h
  | cons r below rest ihb ihr =>
    obtain ⟨hstart, hb, hr⟩ := h
    have hrow := ihb hb
    have hrest := ihr hr
    omega

section Source

variable {source : List Char}

theorem text_gap (start stop : Nat) (rest : Children) :
    (gap source start stop rest).text.toList = between source start stop ++ rest.text.toList := by
  by_cases h : start < stop
  · rw [gap, if_pos h, between]
    cases slice? source start stop with
    | none => rfl
    | some text => simp
  · rw [gap, if_neg h, between_of_le (by omega)]
    rfl

theorem text_lower_nil (offset stop : Nat) :
    (Rows.nil.lower source offset stop).text.toList = between source offset stop := by
  rw [Rows.lower, text_gap, Children.text_nil, String.toList_empty, List.append_nil]

theorem text_lower_cons (offset stop : Nat) (r : Row) (below rest : Rows) :
    ((Rows.cons r below rest).lower source offset stop).text.toList =
      between source offset r.start ++ (below.lower source r.start r.stop).text.toList ++
        (rest.lower source (max offset r.stop) stop).text.toList := by
  cases below with
  | nil => simp [Rows.lower, text_gap, between]
  | cons r' below' rest' => simp [Rows.lower, text_gap]

theorem between_sublist_lower {rows : Rows} {offset stop : Nat}
    (hrows : ∀ r ∈ rows.toList, r.Placed source) (hoffset : Boundary source offset)
    (hstop : Boundary source stop) :
    (between source offset stop).Sublist (rows.lower source offset stop).text.toList := by
  induction rows generalizing offset stop with
  | nil => rw [text_lower_nil]
  | cons r below rest ihb ihr =>
    rw [Rows.toList, List.forall_mem_cons, List.forall_mem_append] at hrows
    obtain ⟨hr, hbelow, hrest⟩ := hrows
    have hnext := hoffset.max hr.stop
    have hb := ihb hbelow hr.start hr.stop
    have ht := ihr hrest hnext hstop
    rw [text_lower_cons]
    rcases Nat.le_total r.stop offset with hle | hle
    · -- The row lies behind what is written already.
      rw [Nat.max_eq_left hle] at ht ⊢
      exact ht.trans (List.sublist_append_right _ _)
    · rw [Nat.max_eq_right hle] at ht ⊢
      have hrow := between_sublist hoffset hr.start hr.stop
      have hall := between_sublist hoffset hr.stop hstop
      have hcover := hrow.trans (List.Sublist.append (List.Sublist.refl _) hb)
      exact hall.trans (List.Sublist.append hcover ht)

theorem text_lower_orderly {rows : Rows} {offset stop : Nat}
    (hrows : ∀ r ∈ rows.toList, r.Placed source) (hoffset : Boundary source offset)
    (hstop : Boundary source stop) (ho : rows.Orderly offset stop) :
    (rows.lower source offset stop).text.toList = between source offset stop := by
  induction rows generalizing offset stop with
  | nil => rw [text_lower_nil]
  | cons r below rest ihb ihr =>
    rw [Rows.toList, List.forall_mem_cons, List.forall_mem_append] at hrows
    obtain ⟨hr, hbelow, hrest⟩ := hrows
    obtain ⟨hstart, hob, hor⟩ := ho
    have hmax : max offset r.stop = r.stop := Nat.max_eq_right (hstart.trans hr.ordered)
    have hb := ihb hbelow hr.start hr.stop hob
    have ht := ihr hrest hr.stop hstop hor
    have hrow := between_append hoffset hr.start hr.stop hstart hr.ordered
    rw [text_lower_cons, hmax, hb, ht, hrow]
    exact between_append hoffset hr.stop hstop (hstart.trans hr.ordered) hor.le

theorem text_lower_parsed (p : Parsed) :
    (p.lower source).text.toList =
      between source 0 p.root.start ++
        (p.below.lower source p.root.start p.root.stop).text.toList ++
          between source p.root.stop (byteLength source) := by
  rw [Parsed.lower]
  split
  · next h =>
    rw [Node.text_eq, between_of_le (Nat.le_of_eq h.1), between_of_le h.2, List.append_nil]
    rfl
  · simp [Node.text_eq, text_gap]

theorem source_sublist_lower {p : Parsed} (hp : ∀ r ∈ p.toList, r.Placed source) :
    source.Sublist (p.lower source).text.toList := by
  rw [Parsed.toList, List.forall_mem_cons] at hp
  obtain ⟨hroot, hrows⟩ := hp
  have hbegin := boundary_zero source
  have hend := boundary_byteLength source
  have hfront := between_sublist hbegin hroot.start hroot.stop
  have hwhole := between_sublist hbegin hroot.stop hend
  rw [between_byteLength] at hwhole
  have hinner := between_sublist_lower hrows hroot.start hroot.stop
  have hcover := hfront.trans (List.Sublist.append (List.Sublist.refl _) hinner)
  rw [text_lower_parsed]
  exact hwhole.trans (List.Sublist.append hcover (List.Sublist.refl _))

theorem text_lower_eq_source {p : Parsed} (hp : ∀ r ∈ p.toList, r.Placed source)
    (ho : p.Orderly) : (p.lower source).text.toList = source := by
  rw [Parsed.toList, List.forall_mem_cons] at hp
  obtain ⟨hroot, hrows⟩ := hp
  have hbegin := boundary_zero source
  have hend := boundary_byteLength source
  have hinner := text_lower_orderly hrows hroot.start hroot.stop ho
  have hfront := between_append hbegin hroot.start hroot.stop (Nat.zero_le _) hroot.ordered
  have hwhole := between_append hbegin hroot.stop hend (Nat.zero_le _) hroot.stop.le
  rw [text_lower_parsed, hinner, hfront, hwhole, between_byteLength]

theorem hasHoles_gap (start stop : Nat) (rest : Children) :
    (gap source start stop rest).hasHoles = rest.hasHoles := by
  by_cases h : start < stop
  · rw [gap, if_pos h]
    cases slice? source start stop with
    | none => rfl
    | some text => rfl
  · rw [gap, if_neg h]

theorem hasHoles_append (cs r : Children) : (cs ++ r).hasHoles = (cs.hasHoles || r.hasHoles) := by
  induction cs with
  | nil => rfl
  | token f t rest ih => exact ih
  | hole f i rest => rfl
  | node f k s below rest _ ih =>
    rw [Children.node_append, Children.hasHoles, Children.hasHoles, ih, Bool.or_assoc]

theorem hasHoles_lower (rows : Rows) (offset stop : Nat) :
    (rows.lower source offset stop).hasHoles = false := by
  induction rows generalizing offset stop with
  | nil => rw [Rows.lower, hasHoles_gap, Children.hasHoles]
  | cons r below rest ihb ihr =>
    cases below with
    | nil => rw [Rows.lower, hasHoles_gap, Children.hasHoles, ihr]
    | cons r' below' rest' =>
      rw [Rows.lower, hasHoles_gap, Children.hasHoles, ihb, ihr, Bool.or_self]

theorem hasHoles_parsed (p : Parsed) : (p.lower source).hasHoles = false := by
  rw [Parsed.lower]
  split
  · exact hasHoles_lower _ _ _
  · rw [Node.hasHoles, hasHoles_gap, hasHoles_append, hasHoles_gap, hasHoles_lower]
    rfl

end Source

theorem exists_of_parse {grammar : Grammar} {source : String} {tree : Node}
    (h : parse grammar source = .ok tree) :
    ∃ p, grammar source = some p ∧ p.lower source.toList = tree := by
  rw [parse] at h
  cases hp : grammar source with
  | none =>
    rw [hp] at h
    cases h
  | some p =>
    rw [hp] at h
    dsimp only at h
    split at h
    · cases h
    · exact ⟨p, rfl, Except.ok.inj h⟩

theorem hasHoles_parse {grammar : Grammar} {source : String} {tree : Node}
    (h : parse grammar source = .ok tree) : tree.hasHoles = false := by
  obtain ⟨p, -, rfl⟩ := exists_of_parse h
  exact hasHoles_parsed p

theorem text_lower_empty (rows : Rows) (offset stop : Nat) :
    (rows.lower [] offset stop).text = "" := by
  apply String.toList_inj.mp
  induction rows generalizing offset stop with
  | nil => rw [text_lower_nil, between_nil, String.toList_empty]
  | cons r below rest ihb ihr =>
    rw [text_lower_cons, between_nil, ihb, ihr, String.toList_empty, List.append_nil,
      List.append_nil]

theorem text_parse_empty {grammar : Grammar} {tree : Node} (h : parse grammar "" = .ok tree) :
    tree.text = "" := by
  obtain ⟨p, -, rfl⟩ := exists_of_parse h
  apply String.toList_inj.mp
  rw [String.toList_empty, text_lower_parsed, between_nil, between_nil, text_lower_empty,
    String.toList_empty, List.append_nil, List.append_nil]

theorem parse_of_clean {grammar : Grammar} {source : String} {p : Parsed}
    (hp : grammar source = some p) (hclean : p.root.hasError = false) :
    parse grammar source = .ok (p.lower source.toList) := by
  rw [parse, hp]
  simp only [hclean, Bool.false_eq_true, if_false]

/-- A clean parse with its rows between character boundaries gives a tree whose text has every byte
of the source in order, and is the source where the rows are orderly. -/
theorem parse_lossless {grammar : Grammar} {source : String} {p : Parsed}
    (hp : grammar source = some p) (hclean : p.root.hasError = false)
    (hrows : ∀ r ∈ p.toList, r.Placed source.toList) :
    ∃ tree, parse grammar source = .ok tree ∧ (bytes source).Sublist (bytes tree.text) ∧
      (p.Orderly → tree.text = source) := by
  refine ⟨p.lower source.toList, parse_of_clean hp hclean, ?_, ?_⟩
  · exact bytes_sublist (source_sublist_lower hrows)
  · intro ho
    exact String.toList_inj.mp (text_lower_eq_source hrows ho)

def cleanRow (kind : String) (start stop : Nat) : Row :=
  ⟨kind, start, stop, none, false, false, false, 0, start⟩

/-- The rows of `<<A+é` and two lines after it. The body of the here-document stands in front of the
operator and sticks out of the expression. -/
def heredoc : Parsed :=
  ⟨cleanRow "program" 0 10,
    .cons (cleanRow "binary" 0 6)
      (.cons (cleanRow "heredoc_beginning" 0 3) .nil <|
        .cons (cleanRow "heredoc_body" 6 10) .nil <|
        .cons (cleanRow "+" 3 4) .nil <|
        .cons (cleanRow "identifier" 4 6) .nil .nil) .nil⟩

def framed : Parsed :=
  ⟨cleanRow "program" 1 5,
    .cons (cleanRow "binary" 1 5)
      (.cons (cleanRow "identifier" 1 3) .nil <|
        .cons (cleanRow ">" 3 4) .nil <|
        .cons (cleanRow "integer" 4 5) .nil .nil) .nil⟩

theorem parse_lossless_heredoc :
    (∃ tree, parse (fun _ => some heredoc) "<<A+é\nx\nA\n" = .ok tree ∧
      tree.text = "<<A+é\nx\nA+é\nx\nA\n" ∧
      (bytes "<<A+é\nx\nA\n").Sublist (bytes "<<A+é\nx\nA+é\nx\nA\n")) ∧
    ∃ tree, parse (fun _ => some framed) "\né>5\n" = .ok tree ∧ tree.text = "\né>5\n" := by
  constructor
  · obtain ⟨tree, hparse, hsub, -⟩ := @parse_lossless (fun _ => some heredoc)
      "<<A+é\nx\nA\n" heredoc rfl rfl (by decide +kernel)
    have htext : tree.text = "<<A+é\nx\nA+é\nx\nA\n" := by
      rw [parse_of_clean rfl rfl] at hparse
      cases hparse
      decide +kernel
    exact ⟨tree, hparse, htext, htext ▸ hsub⟩
  · obtain ⟨tree, hparse, -, hsame⟩ := @parse_lossless (fun _ => some framed)
      "\né>5\n" framed rfl rfl (by decide +kernel)
    exact ⟨tree, hparse, hsame (by decide)⟩

end Mender.Syntax
