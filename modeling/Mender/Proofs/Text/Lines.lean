import Mathlib.Data.List.TakeWhile
import Mathlib.Tactic.Common
import Mender.Text.Lines

namespace Mender.Text

@[simp] theorem terminatedLines_nil : terminatedLines [] = [] := by
  simp only [terminatedLines]

theorem terminatedLines_crlf (cs : List Char) :
    terminatedLines ('\r' :: '\n' :: cs) = ['\r', '\n'] :: terminatedLines cs := by
  simp only [terminatedLines]

theorem terminatedLines_newline {c : Char} {cs : List Char} (hc : c = '\n' ∨ c = '\r')
    (hcs : cs.head? ≠ some '\n') : terminatedLines (c :: cs) = [c] :: terminatedLines cs := by
  cases cs with
  | nil => rcases hc with rfl | rfl <;> simp [terminatedLines]
  | cons d cs =>
    have hd : d ≠ '\n' := by simpa using hcs
    rw [terminatedLines, if_pos hc]
    rintro cs' rfl he
    exact hd (List.cons.inj he).1

theorem terminatedLines_cons {c : Char} (hc : ¬(c = '\n' ∨ c = '\r')) (cs : List Char) :
    terminatedLines (c :: cs) =
      (c :: (terminatedLines cs).headD []) :: (terminatedLines cs).tail := by
  rw [terminatedLines, if_neg hc]
  · cases terminatedLines cs <;> rfl
  · rintro cs' rfl
    exact absurd (.inr rfl) hc

theorem terminatedLines_flatten (cs : List Char) : (terminatedLines cs).flatten = cs := by
  fun_induction terminatedLines cs <;> simp_all

theorem newlinePieces_flatten (cs : List Char) : (newlinePieces cs).flatten = cs := by
  fun_induction newlinePieces cs <;> simp_all

theorem terminatedLines_injective : Function.Injective terminatedLines := by
  intro cs ds h
  rw [← terminatedLines_flatten cs, h, terminatedLines_flatten]

inductive IsLine : List Char → Prop
  | crlf : IsLine ['\r', '\n']
  | ending {c : Char} : c = '\n' ∨ c = '\r' → IsLine [c]
  | last {c : Char} : ¬(c = '\n' ∨ c = '\r') → IsLine [c]
  | cons {c : Char} {l : List Char} : ¬(c = '\n' ∨ c = '\r') → IsLine l → IsLine (c :: l)

def Ended (l : List Char) : Prop := l.getLast? = some '\n' ∨ l.getLast? = some '\r'

instance (l : List Char) : Decidable (Ended l) := inferInstanceAs (Decidable (_ ∨ _))

theorem isLine_of_mem {cs : List Char} : ∀ l ∈ terminatedLines cs, IsLine l := by
  fun_induction terminatedLines cs with
  | case1 => simp
  | case2 cs ih => exact List.forall_mem_cons.mpr ⟨.crlf, ih⟩
  | case3 c cs _ hc ih => exact List.forall_mem_cons.mpr ⟨.ending hc, ih⟩
  | case4 c cs _ hc hnil ih => exact List.forall_mem_singleton.mpr (.last hc)
  | case5 c cs _ hc line lines hlines ih =>
    rw [hlines] at ih
    obtain ⟨hline, hlines⟩ := List.forall_mem_cons.mp ih
    exact List.forall_mem_cons.mpr ⟨.cons hc hline, hlines⟩

theorem IsLine.ne_nil {l : List Char} (h : IsLine l) : l ≠ [] := by
  cases h <;> simp

theorem ended_cons {c : Char} {l : List Char} (hl : l ≠ []) : Ended (c :: l) ↔ Ended l := by
  rw [Ended, Ended, List.getLast?_cons_of_ne_nil hl]

theorem newlinePieces_eq {cs : List Char} (h : ∀ l ∈ terminatedLines cs, l.getLast? ≠ some '\r') :
    newlinePieces cs = terminatedLines cs := by
  fun_induction terminatedLines cs with
  | case1 => rfl
  | case2 cs ih =>
    obtain ⟨-, hcs⟩ := List.forall_mem_cons.mp h
    simp [newlinePieces, ih hcs]
  | case3 c cs _ hc ih =>
    obtain ⟨hlast, hcs⟩ := List.forall_mem_cons.mp h
    have hnewline : c = '\n' := hc.resolve_right fun hr => hlast (congrArg some hr)
    rw [newlinePieces, if_pos hnewline, ih hcs]
  | case4 c cs _ hc hnil ih =>
    have hcs : ∀ l ∈ terminatedLines cs, l.getLast? ≠ some '\r' := by
      rw [hnil]
      exact List.forall_mem_nil _
    rw [newlinePieces, if_neg fun hn => hc (.inl hn), ih hcs, hnil]
  | case5 c cs _ hc line lines hlines ih =>
    have hline : line ≠ [] := by
      have hmem : line ∈ terminatedLines cs := hlines ▸ List.mem_cons_self
      exact (isLine_of_mem line hmem).ne_nil
    have hcs : ∀ l ∈ terminatedLines cs, l.getLast? ≠ some '\r' := by
      rw [hlines]
      obtain ⟨hlast, hrest⟩ := List.forall_mem_cons.mp h
      rw [List.getLast?_cons_of_ne_nil hline] at hlast
      exact List.forall_mem_cons.mpr ⟨hlast, hrest⟩
    rw [newlinePieces, if_neg fun hn => hc (.inl hn), ih hcs, hlines]

theorem IsLine.terminatedLines_append {l rest : List Char} (h : IsLine l) (he : Ended l)
    (hrest : rest.head? ≠ some '\n') : terminatedLines (l ++ rest) = l :: terminatedLines rest := by
  induction h with
  | crlf => exact terminatedLines_crlf rest
  | ending hc => exact terminatedLines_newline hc hrest
  | last hc => simp [Ended, hc] at he
  | cons hc hl ih =>
    rw [ended_cons hl.ne_nil] at he
    rw [List.cons_append, terminatedLines_cons hc, ih he]
    rfl

theorem IsLine.append_newline {l : List Char} (h : IsLine l) (he : ¬Ended l) :
    IsLine (l ++ ['\n']) := by
  induction h with
  | crlf => exact absurd (.inl rfl) he
  | ending hc => exact absurd (hc.imp (congrArg some) (congrArg some)) he
  | last hc => exact .cons hc (.ending (.inl rfl))
  | cons hc hl ih =>
    rw [ended_cons hl.ne_nil] at he
    exact .cons hc (ih he)

theorem isLine_of_plain (cs : List Char) (h : ∀ c ∈ cs, ¬(c = '\n' ∨ c = '\r')) :
    IsLine (cs ++ ['\n']) := by
  induction cs with
  | nil => exact .ending (.inl rfl)
  | cons c cs ih =>
    obtain ⟨hc, hcs⟩ := List.forall_mem_cons.mp h
    exact .cons hc (ih hcs)

theorem ended_newline (l : List Char) : Ended (l ++ ['\n']) := .inl List.getLast?_concat

theorem terminatedLines_of_lines {ls : List (List Char)}
    (h : ∀ l ∈ ls, IsLine l ∧ Ended l ∧ l.head? ≠ some '\n') : terminatedLines ls.flatten = ls := by
  induction ls with
  | nil => exact terminatedLines_nil
  | cons l ls ih =>
    obtain ⟨⟨hl, he, -⟩, hls⟩ := List.forall_mem_cons.mp h
    have hrest : ls.flatten.head? ≠ some '\n' := by
      cases ls with
      | nil => simp
      | cons m ls =>
        obtain ⟨hm, -, hd⟩ := hls m List.mem_cons_self
        obtain ⟨d, m, rfl⟩ := List.exists_cons_of_ne_nil hm.ne_nil
        simpa using hd
    rw [List.flatten_cons, hl.terminatedLines_append he hrest, ih hls]

/-- The first line of a text: it ends at the first newline, before a carriage return in front of
that, or at the end of the text. -/
inductive FirstLine : List Char → List Char → Prop
  | whole {line : List Char} : '\n' ∉ line → FirstLine line line
  | lf {line rest : List Char} : '\n' ∉ line → line.getLast? ≠ some '\r' →
      FirstLine (line ++ '\n' :: rest) line
  | crlf {line rest : List Char} : '\n' ∉ line → FirstLine (line ++ '\r' :: '\n' :: rest) line

theorem firstLine_of_append {line : List Char} (h : '\n' ∉ line) (rest : List Char) :
    firstLine (line ++ '\n' :: rest) =
      if line.getLast? = some '\r' then line.dropLast else line := by
  have htake : (line ++ '\n' :: rest).takeWhile (· ≠ '\n') = line := by
    rw [List.takeWhile_append_of_pos, List.takeWhile_cons_of_neg (by simp), List.append_nil]
    intro c hc
    simpa using ne_of_mem_of_not_mem hc h
  rw [firstLine, htake]
  simp

theorem firstLine_spec (cs : List Char) : FirstLine cs (firstLine cs) := by
  by_cases h : '\n' ∈ cs
  · obtain ⟨line, rest, rfl, hline⟩ := List.eq_append_cons_of_mem h
    rw [firstLine_of_append hline]
    by_cases hr : line.getLast? = some '\r'
    · obtain ⟨line, rfl⟩ := List.getLast?_eq_some_iff.mp hr
      rw [if_pos hr, List.dropLast_concat, List.append_assoc]
      exact .crlf fun hmem => hline (List.mem_append_left _ hmem)
    · rw [if_neg hr]
      exact .lf hline hr
  · have htake : cs.takeWhile (· ≠ '\n') = cs := by
      rw [List.takeWhile_eq_self_iff]
      intro c hc
      simpa using ne_of_mem_of_not_mem hc h
    have hfirst : firstLine cs = cs := by
      rw [firstLine, htake]
      simp
    rw [hfirst]
    exact .whole h

end Mender.Text
