import Mender.Proofs.Syntax.Lower

/-!
Where a program text is faulty. The search for the first fault enters only rows with an error flag;
it misses none as long as the flags tell the truth about the rows below them.
-/

namespace Mender.Syntax

def Rows.Flagged : Rows → Prop
  | nil => True
  | cons r below rest =>
    (r.hasError = true ↔ ∃ x ∈ r :: below.toList, x.faulty = true) ∧ below.Flagged ∧ rest.Flagged

instance Rows.decidableFlagged : (rows : Rows) → Decidable rows.Flagged
  | nil => inferInstanceAs (Decidable True)
  | cons r below rest =>
    have := decidableFlagged below
    have := decidableFlagged rest
    inferInstanceAs (Decidable
      ((r.hasError = true ↔ ∃ x ∈ r :: below.toList, x.faulty = true) ∧ _ ∧ _))

/-- A row has the error flag exactly if it or a row below it, at any depth, is faulty. -/
def Parsed.Flagged (p : Parsed) : Prop := (Rows.cons p.root p.below .nil).Flagged

instance (p : Parsed) : Decidable p.Flagged :=
  inferInstanceAs (Decidable (Rows.cons p.root p.below .nil).Flagged)

theorem Rows.firstFault_eq {rows : Rows} (h : rows.Flagged) :
    rows.firstFault = rows.toList.find? Row.faulty := by
  induction rows with
  | nil => rfl
  | cons r below rest ihb ihr =>
    obtain ⟨hflag, hb, hr⟩ := h
    rw [firstFault, toList, ihb hb, ihr hr]
    by_cases he : r.hasError = true
    · rw [if_pos he]
      by_cases hf : r.faulty = true
      · rw [if_pos hf, List.find?_cons_of_pos hf]
      · rw [if_neg hf, List.find?_cons_of_neg hf, List.find?_append]
    · -- The search passes over the row, and there is nothing to find in it.
      have hclean : ∀ x ∈ r :: below.toList, ¬x.faulty = true := by
        intro x hx hf
        exact he (hflag.mpr ⟨x, hx, hf⟩)
      obtain ⟨hrow, hbelow⟩ := List.forall_mem_cons.mp hclean
      rw [if_neg he, List.find?_cons_of_neg hrow, List.find?_append,
        List.find?_eq_none.mpr hbelow, Option.none_or]

section Parsed

variable {p : Parsed}

theorem firstFault_parsed (h : p.Flagged) :
    p.firstFault = (p.toList.find? Row.faulty).getD p.root := by
  obtain ⟨-, hbelow, -⟩ := h
  rw [Parsed.firstFault, Parsed.toList, Rows.firstFault_eq hbelow]
  by_cases hf : p.root.faulty = true
  · rw [if_pos hf, List.find?_cons_of_pos hf, Option.getD_some]
  · rw [if_neg hf, List.find?_cons_of_neg hf]

theorem hasError_iff (h : p.Flagged) : p.root.hasError = true ↔ ∃ r ∈ p.toList, r.faulty = true :=
  h.1

def Row.fault (r : Row) : Fault :=
  ⟨r.line + 1, r.column + 1, if r.isMissing then .missing r.kind else .unexpected⟩

theorem Row.message_fault (r : Row) : r.fault.kind.message =
    if r.isMissing = true then "missing '" ++ r.kind ++ "'" else "unexpected syntax" := by
  unfold fault
  split <;> rfl

theorem parse_eq {grammar : Grammar} {source : String} (hp : grammar source = some p)
    (h : p.Flagged) : parse grammar source =
      match p.toList.find? Row.faulty with
      | some r => .error r.fault
      | none => .ok (p.lower source.toList) := by
  rw [parse, hp]
  cases hfirst : p.toList.find? Row.faulty with
  | none =>
    have hclean : ¬p.root.hasError = true := by
      rw [hasError_iff h]
      rintro ⟨r, hr, hf⟩
      exact List.find?_eq_none.mp hfirst r hr hf
    dsimp only
    rw [if_neg hclean]
  | some r =>
    have herror : p.root.hasError = true :=
      (hasError_iff h).mpr ⟨r, List.mem_of_find?_eq_some hfirst, List.find?_some hfirst⟩
    have hfault : p.firstFault = r := by rw [firstFault_parsed h, hfirst, Option.getD_some]
    dsimp only
    rw [if_pos herror, Parsed.fault, hfault]
    rfl

end Parsed

/-- A text is refused exactly if a row of its parse is an error or missing, and the refusal states
the place of the first such row and which of the two it is. -/
theorem parse_first_fault {grammar : Grammar} {source : String} {p : Parsed}
    (hp : grammar source = some p) (h : p.Flagged) :
    ((∃ f, parse grammar source = .error f) ↔
      ∃ r ∈ p.toList, r.isError = true ∨ r.isMissing = true) ∧
    ∀ f, parse grammar source = .error f → ∃ r,
      p.toList.find? (fun x => x.isError || x.isMissing) = some r ∧
      f.line = r.line + 1 ∧ f.column = r.column + 1 ∧
      f.kind.message =
        if r.isMissing = true then "missing '" ++ r.kind ++ "'" else "unexpected syntax" := by
  have hfaulty (r : Row) : r.faulty = true ↔ r.isError = true ∨ r.isMissing = true :=
    Bool.or_eq_true_iff
  simp only [← hfaulty]
  rw [parse_eq hp h]
  cases hfirst : p.toList.find? Row.faulty with
  | none =>
    constructor
    · apply iff_of_false
      · rintro ⟨f, hf⟩
        cases hf
      · rintro ⟨r, hr, hf⟩
        exact List.find?_eq_none.mp hfirst r hr hf
    · intro f hf
      cases hf
  | some r =>
    constructor
    · exact iff_of_true ⟨_, rfl⟩
        ⟨r, List.mem_of_find?_eq_some hfirst, List.find?_some hfirst⟩
    · intro f hf
      cases hf
      exact ⟨r, hfirst, rfl, rfl, r.message_fault⟩

/-- The rows of `f(x)` and a line `g(]` behind it. The missing row has no width and stands deeper in
the tree than the error behind it. -/
def unclosed : Parsed :=
  ⟨⟨"program", 0, 8, none, false, false, true, 0, 0⟩,
    .cons ⟨"call", 0, 4, none, false, false, false, 0, 0⟩
      (.cons ⟨"identifier", 0, 1, none, false, false, false, 0, 0⟩ .nil .nil) <|
    .cons ⟨"call", 5, 7, none, false, false, true, 1, 0⟩
      (.cons ⟨"argument_list", 6, 7, none, false, false, true, 1, 1⟩
        (.cons ⟨")", 7, 7, none, false, true, true, 1, 2⟩ .nil .nil) .nil) <|
    .cons ⟨"ERROR", 7, 8, none, true, false, true, 1, 2⟩ .nil .nil⟩

theorem parse_first_fault_unclosed :
    unclosed.Flagged ∧ ∃ f, parse (fun _ => some unclosed) "f(x)\ng(]" = .error f ∧
      f.line = 2 ∧ f.column = 3 ∧ f.kind.message = "missing ')'" := by
  have hflags : unclosed.Flagged := by decide
  obtain ⟨hrefused, hplace⟩ := @parse_first_fault (fun _ => some unclosed) "f(x)\ng(]" unclosed rfl
    hflags
  have hmissing : ∃ r ∈ unclosed.toList, r.isError = true ∨ r.isMissing = true := by decide
  obtain ⟨f, hf⟩ := hrefused.mpr hmissing
  obtain ⟨r, hr, hline, hcolumn, hmessage⟩ := hplace f hf
  obtain rfl := Option.some.inj hr
  exact ⟨hflags, f, hf, hline, hcolumn, hmessage⟩

end Mender.Syntax
