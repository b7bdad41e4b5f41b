import Mender.Proofs.Diff.Paint
import Mender.Proofs.Report.Terminal

namespace Mender.Diff

open Text Report

theorem ne_nil_of_mem_newlinePieces {cs : List Char} : ∀ l ∈ newlinePieces cs, l ≠ [] := by
  fun_induction newlinePieces cs with
  | case1 => simp
  | case2 cs ih => exact List.forall_mem_cons.mpr ⟨List.cons_ne_nil _ _, ih⟩
  | case3 c cs _ _ ih => exact List.forall_mem_singleton.mpr (List.cons_ne_nil _ _)
  | case4 c cs _ line lines hlines ih =>
    rw [hlines] at ih
    exact List.forall_mem_cons.mpr ⟨List.cons_ne_nil _ _, (List.forall_mem_cons.mp ih).2⟩

theorem newline_notMem_piece {cs : List Char} : ∀ l ∈ newlinePieces cs, '\n' ∉ chomp l := by
  fun_induction newlinePieces cs with
  | case1 => simp
  | case2 cs ih => exact List.forall_mem_cons.mpr ⟨by decide, ih⟩
  | case3 c cs hc _ ih =>
    have hchomp : chomp [c] = [c] := if_neg (by simpa using hc)
    rw [List.forall_mem_singleton, hchomp, List.mem_singleton]
    exact Ne.symm hc
  | case4 c cs hc line lines hlines ih =>
    have hline : line ≠ [] := ne_nil_of_mem_newlinePieces line (hlines ▸ List.mem_cons_self)
    rw [hlines] at ih
    obtain ⟨hfirst, hrest⟩ := List.forall_mem_cons.mp ih
    rw [List.forall_mem_cons, chomp_cons c hline, List.mem_cons, not_or]
    exact ⟨⟨Ne.symm hc, hfirst⟩, hrest⟩

def ending (l : Line) : List Char := if l.getLast? = some '\n' then ['\n'] else []

theorem chomp_append_ending (l : Line) : chomp l ++ ending l = l := by
  by_cases h : l.getLast? = some '\n'
  · rw [ending, if_pos h, chomp_append h]
  · rw [ending, if_neg h, chomp, if_neg h, List.append_nil]

theorem paintLine_eq (on : Bool) (l : Line) :
    paintLine on l = (lineStyle (chomp l)).paint on (chomp l) ++ ending l := by
  by_cases h : l.getLast? = some '\n'
  · rw [paintLine, chomp, ending, if_pos h, if_pos h, if_pos h]
  · rw [paintLine, chomp, ending, if_neg h, if_neg h, if_neg h, List.append_nil]

theorem colorize_false (diff : String) : colorize false diff = diff := by
  have hline : paintLine false = id := by
    funext l
    rw [paintLine_eq, Style.paint_false, chomp_append_ending, id]
  rw [colorize, hline, List.flatMap_id, newlinePieces_flatten, String.ofList_toList]

def lineCells (l : Line) : List (Char × List (List Char)) :=
  (chomp l).map (·, (lineStyle (chomp l)).force) ++ (ending l).map (·, [])

theorem map_fst_lineCells (l : Line) : (lineCells l).map Prod.fst = l := by
  have hfst (force : List (List Char)) : (Prod.fst ∘ fun c : Char => (c, force)) = id := rfl
  rw [lineCells, List.map_append, List.map_map, List.map_map, hfst, hfst, List.map_id, List.map_id,
    chomp_append_ending]

theorem shown_paintLine {l : Line} (h : '\x1b' ∉ l) (cs : List Char) :
    shown [] (paintLine true l ++ cs) = lineCells l ++ shown [] cs := by
  rw [← chomp_append_ending l, List.mem_append, not_or] at h
  rw [paintLine_eq, List.append_assoc, Style.shown_paint _ h.1, shown_append _ h.2, lineCells,
    List.append_assoc]

theorem shown_lines {ls : List Line} (h : ∀ l ∈ ls, '\x1b' ∉ l) :
    shown [] (ls.flatMap (paintLine true)) = ls.flatMap lineCells := by
  induction ls with
  | nil => exact shown_nil []
  | cons l ls ih =>
    obtain ⟨hl, hls⟩ := List.forall_mem_cons.mp h
    rw [List.flatMap_cons, List.flatMap_cons, shown_paintLine hl, ih hls]

/-- Without colours painting changes nothing. With colours a terminal shows of a text without escape
characters what the text says: each line is in the style that its first characters ask for, and no
style reaches a newline. -/
theorem colorize_shown (diff : String) :
    colorize false diff = diff ∧
    ('\x1b' ∉ diff.toList →
      let cells := shown [] (colorize true diff).toList
      cells.map Prod.fst = diff.toList ∧ (∀ cell ∈ cells, cell.1 = '\n' → cell.2 = []) ∧
      cells = (newlinePieces diff.toList).flatMap lineCells) := by
  refine ⟨colorize_false diff, fun hescape => ?_⟩
  have hlines : ∀ l ∈ newlinePieces diff.toList, '\x1b' ∉ l := by
    intro l hl hmem
    apply hescape
    rw [← newlinePieces_flatten diff.toList]
    exact List.mem_flatten.mpr ⟨l, hl, hmem⟩
  have hcells : shown [] (colorize true diff).toList =
      (newlinePieces diff.toList).flatMap lineCells := by
    rw [colorize, String.toList_ofList, shown_lines hlines]
  intro cells
  refine ⟨?_, ?_, hcells⟩
  · simp only [cells, hcells, List.map_flatMap, map_fst_lineCells]
    rw [List.flatMap_id', newlinePieces_flatten]
  · intro cell hcell hnewline
    simp only [cells, hcells, List.mem_flatMap] at hcell
    obtain ⟨l, hl, hcell⟩ := hcell
    rw [lineCells, List.mem_append, List.mem_map, List.mem_map] at hcell
    rcases hcell with ⟨c, hc, rfl⟩ | ⟨c, hc, rfl⟩
    · subst hnewline
      exact absurd hc (newline_notMem_piece l hl)
    · rfl

theorem colorize_shown_unended :
    let diff := "--- a\r\n\n-x\n+y"
    '\x1b' ∉ diff.toList ∧ colorize true diff ≠ diff ∧
      (shown [] (colorize true diff).toList).map Prod.fst = diff.toList ∧
      ∀ cell ∈ shown [] (colorize true diff).toList, cell.1 = '\n' → cell.2 = [] := by
  intro diff
  have hescape : '\x1b' ∉ diff.toList := by decide
  obtain ⟨htext, hnewline, -⟩ := (colorize_shown diff).2 hescape
  exact ⟨hescape, by decide +kernel, htext, hnewline⟩

end Mender.Diff
