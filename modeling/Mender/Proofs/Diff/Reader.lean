import Mathlib.Data.List.Infix
import Mender.Diff.Unified
import Mender.Proofs.Diff.Edit
import Mender.Proofs.Text.Lines

/-!
A reader of unified diffs. It trusts the lengths that a hunk declares: they say where the hunk ends,
so a deleted line that looks like a header is read as a line.
-/

namespace Mender.Diff

open Text

/-- Lines of a text as a hunk declares them: the number of the first and how many there are. An
empty span starts at the line in front of it, where lines count from one. -/
structure Span where
  start : Nat
  length : Nat
  deriving DecidableEq, Repr

def Span.behind (front length : Nat) : Span := ⟨if length = 0 then front else front + 1, length⟩

structure Block where
  old : Span
  new : Span
  edits : List Edit
  deriving DecidableEq, Repr

structure Patch where
  oldName : String
  newName : String
  blocks : List Block
  deriving DecidableEq, Repr

/-! ### Lines -/

def noNewline : Line := "\\ No newline at end of file\n".toList

def unmark : List Line → List Line
  | [] => []
  | [l] => [l]
  | l :: m :: ls =>
    if m = noNewline ∧ l.getLast? = some '\n' then l.dropLast :: unmark ls
    else l :: unmark (m :: ls)

def readEdit : Line → Option Edit
  | ' ' :: l => some (.keep l)
  | '-' :: l => some (.delete l)
  | '+' :: l => some (.insert l)
  | _ => none

def readNumber (cs : List Char) : Option (Nat × List Char) :=
  let digits := cs.takeWhile (·.isDigit)
  if digits = [] then none else some (Nat.ofDigitChars 10 digits 0, cs.dropWhile (·.isDigit))

def readSpan (cs : List Char) : Option (Span × List Char) := do
  let (start, cs) ← readNumber cs
  match cs with
  | ',' :: cs =>
    let (length, cs) ← readNumber cs
    return (⟨start, length⟩, cs)
  | cs => return (⟨start, 1⟩, cs)

def readSpans (line : Line) : Option (Span × Span) := do
  let cs ← "@@ -".toList.isPrefixOf? line
  let (old, cs) ← readSpan cs
  let cs ← " +".toList.isPrefixOf? cs
  let (new, cs) ← readSpan cs
  if cs = " @@\n".toList then some (old, new) else none

/-- The edits still to come of a hunk that lacks so many lines of either text, and the hunks behind
it. -/
def readLines (old new : Nat) : List Line → Option (List Edit × List Block)
  | [] => if old = 0 ∧ new = 0 then some ([], []) else none
  | line :: lines =>
    if old = 0 ∧ new = 0 then do
      let (old, new) ← readSpans line
      let (edits, blocks) ← readLines old.length new.length lines
      return ([], ⟨old, new, edits⟩ :: blocks)
    else do
      let e ← readEdit line
      let before := (Edit.before [e]).length
      let after := (Edit.after [e]).length
      if before ≤ old ∧ after ≤ new then
        let (edits, blocks) ← readLines (old - before) (new - after) lines
        return (e :: edits, blocks)
      else none

def readName (token : String) (line : Line) : Option String := do
  let name ← token.toList.isPrefixOf? line
  if name.getLast? = some '\n' then some (.ofList name.dropLast) else none

def readPatch (diff : String) : Option Patch :=
  match unmark (terminatedLines diff.toList) with
  | old :: new :: lines => do
    let oldName ← readName "--- " old
    let newName ← readName "+++ " new
    let (_, blocks) ← readLines 0 0 lines
    return ⟨oldName, newName, blocks⟩
  | _ => none

/-! ### The marker -/

def marked (l : Line) : List Line := if Ended l then [l] else [l ++ ['\n'], noNewline]

def Bare (l : Line) : Prop := IsLine l ∧ ∀ c ∈ l.head?, c ≠ '\n' ∧ c ≠ '\\'

theorem noNewline_isLine : IsLine noNewline :=
  isLine_of_plain "\\ No newline at end of file".toList (by simp)

theorem terminatedLines_marked {ls : List Line} (h : ∀ l ∈ ls, Bare l) :
    terminatedLines (ls.flatMap marked).flatten = ls.flatMap marked := by
  apply terminatedLines_of_lines
  intro p hp
  obtain ⟨l, hl, hp⟩ := List.mem_flatMap.mp hp
  obtain ⟨hline, hhead⟩ := h l hl
  obtain ⟨c, l, rfl⟩ := List.exists_cons_of_ne_nil hline.ne_nil
  have hc : c ≠ '\n' := (hhead c rfl).1
  rw [marked] at hp
  by_cases he : Ended (c :: l)
  · rw [if_pos he, List.mem_singleton] at hp
    subst hp
    exact ⟨hline, he, by simpa using hc⟩
  · rw [if_neg he, List.mem_cons, List.mem_singleton] at hp
    rcases hp with rfl | rfl
    · exact ⟨hline.append_newline he, ended_newline _, by simpa using hc⟩
    · exact ⟨noNewline_isLine, by decide, by decide⟩

theorem unmark_cons (l : Line) {ls : List Line} (h : ls.head? ≠ some noNewline) :
    unmark (l :: ls) = l :: unmark ls := by
  cases ls with
  | nil => rfl
  | cons m ls =>
    have hm : m ≠ noNewline := fun he => h (congrArg some he)
    rw [unmark, if_neg (fun hmark => hm hmark.1)]

theorem unmark_newline (l : Line) (ls : List Line) :
    unmark ((l ++ ['\n']) :: noNewline :: ls) = l :: unmark ls := by
  rw [unmark, if_pos ⟨rfl, List.getLast?_concat⟩, List.dropLast_concat]

theorem head?_marked {ls : List Line} (h : ∀ l ∈ ls, Bare l) :
    (ls.flatMap marked).head? ≠ some noNewline := by
  intro hfirst
  cases ls with
  | nil => cases hfirst
  | cons l ls =>
    obtain ⟨hline, hhead⟩ := h l List.mem_cons_self
    obtain ⟨c, l, rfl⟩ := List.exists_cons_of_ne_nil hline.ne_nil
    have hc : c ≠ '\\' := (hhead c rfl).2
    rw [List.flatMap_cons, marked] at hfirst
    split at hfirst
    · exact hc (List.cons.inj (Option.some.inj hfirst)).1
    · exact hc (List.cons.inj (Option.some.inj hfirst)).1

theorem unmark_marked {ls : List Line} (h : ∀ l ∈ ls, Bare l) :
    unmark (ls.flatMap marked) = ls := by
  induction ls with
  | nil => rfl
  | cons l ls ih =>
    obtain ⟨-, hls⟩ := List.forall_mem_cons.mp h
    rw [List.flatMap_cons, marked]
    by_cases he : Ended l
    · rw [if_pos he, List.singleton_append, unmark_cons l (head?_marked hls), ih hls]
    · rw [if_neg he, List.cons_append, List.cons_append, List.nil_append, unmark_newline, ih hls]

/-! ### Headers -/

theorem readNumber_digits (n : Nat) {rest : List Char} (h : ∀ c ∈ rest.head?, ¬c.isDigit) :
    readNumber (Nat.toDigits 10 n ++ rest) = some (n, rest) := by
  have hdigits : ∀ c ∈ Nat.toDigits 10 n, c.isDigit := fun c hc =>
    Nat.isDigit_of_mem_toDigits (by decide) (by decide) hc
  have hrest : rest.takeWhile (·.isDigit) = [] ∧ rest.dropWhile (·.isDigit) = rest := by
    cases rest with
    | nil => exact ⟨rfl, rfl⟩
    | cons c rest =>
      have hc : c.isDigit = false := by simpa using h c rfl
      simp [hc]
  rw [readNumber, List.takeWhile_append_of_pos hdigits, List.dropWhile_append_of_pos hdigits,
    hrest.1, hrest.2, List.append_nil, if_neg Nat.toDigits_ne_nil, Nat.ofDigitChars_ten_toDigits]

theorem toString_self (s : String) : toString s = s := rfl

theorem range_toList (front length : Nat) : (range front length).toList =
    if length = 1 then Nat.toDigits 10 (front + 1)
    else if length = 0 then Nat.toDigits 10 front ++ [',', '0']
    else Nat.toDigits 10 (front + 1) ++ ',' :: Nat.toDigits 10 length := by
  rw [range]
  split
  · simp
  · split <;> simp [toString_self]

theorem readSpan_range (front length : Nat) (rest : List Char) (h : rest.head? = some ' ') :
    readSpan ((range front length).toList ++ rest) = some (.behind front length, rest) := by
  obtain ⟨rest, rfl⟩ := List.head?_eq_some_iff.mp h
  have hspace : ∀ c ∈ (' ' :: rest).head?, ¬c.isDigit := by simp
  have hcomma (cs : List Char) : ∀ c ∈ (',' :: cs).head?, ¬c.isDigit := by simp
  rw [range_toList, Span.behind]
  by_cases h1 : length = 1
  · subst h1
    rw [if_pos rfl, readSpan, readNumber_digits _ hspace]
    rfl
  · by_cases h0 : length = 0
    · subst h0
      have hzero : readNumber ('0' :: ' ' :: rest) = some (0, ' ' :: rest) :=
        readNumber_digits 0 hspace
      rw [if_neg h1, if_pos rfl, List.append_assoc, List.cons_append, readSpan,
        readNumber_digits _ (hcomma _)]
      simp [hzero]
    · rw [if_neg h1, if_neg h0, List.append_assoc, readSpan, List.cons_append,
        readNumber_digits _ (hcomma _)]
      simp [readNumber_digits _ hspace, h0]

def Hunk.block (h : Hunk) : Block where
  old := .behind h.oldStart (Edit.before h.edits).length
  new := .behind h.newStart (Edit.after h.edits).length
  edits := h.edits

theorem Hunk.header_toList (h : Hunk) : h.header.toList = "@@ -".toList ++
    ((range h.oldStart (Edit.before h.edits).length).toList ++ (" +".toList ++
      ((range h.newStart (Edit.after h.edits).length).toList ++ " @@\n".toList))) := by
  simp [Hunk.header, toString_self]

theorem readSpans_header (h : Hunk) :
    readSpans h.header.toList = some (h.block.old, h.block.new) := by
  have htoken (token rest : List Char) : token.isPrefixOf? (token ++ rest) = some rest :=
    List.isPrefixOf?_eq_some_iff_append_eq.mpr rfl
  have hold := readSpan_range h.oldStart (Edit.before h.edits).length
    (" +".toList ++ ((range h.newStart (Edit.after h.edits).length).toList ++
      " @@\n".toList)) rfl
  have hnew := readSpan_range h.newStart (Edit.after h.edits).length " @@\n".toList rfl
  simp only [h.header_toList, readSpans, htoken, hold, hnew, Option.bind_eq_bind, Option.bind_some,
    if_true]
  rfl

theorem range_plain (front length : Nat) :
    ∀ c ∈ (range front length).toList, ¬(c = '\n' ∨ c = '\r') := by
  have hdigits (n : Nat) : ∀ c ∈ Nat.toDigits 10 n, ¬(c = '\n' ∨ c = '\r') := by
    intro c hc
    have hdigit : c.isDigit := Nat.isDigit_of_mem_toDigits (by decide) (by decide) hc
    rintro (rfl | rfl) <;> cases hdigit
  intro c hc
  rw [range_toList] at hc
  split at hc
  · exact hdigits _ c hc
  · split at hc
    · rcases List.mem_append.mp hc with hc | hc
      · exact hdigits _ c hc
      · have hzero : ∀ c ∈ [',', '0'], ¬(c = '\n' ∨ c = '\r') := by simp
        exact hzero c hc
    · rcases List.mem_append.mp hc with hc | hc
      · exact hdigits _ c hc
      · rcases List.mem_cons.mp hc with rfl | hc
        · decide
        · exact hdigits _ c hc

theorem Hunk.header_eq (h : Hunk) : ∃ cs : List Char, h.header.toList = cs ++ ['\n'] ∧
    cs.head? = some '@' ∧ ∀ c ∈ cs, ¬(c = '\n' ∨ c = '\r') := by
  refine ⟨"@@ -".toList ++ ((range h.oldStart (Edit.before h.edits).length).toList ++ (" +".toList ++
    ((range h.newStart (Edit.after h.edits).length).toList ++ " @@".toList))), ?_, rfl, ?_⟩
  · rw [h.header_toList]
    simp
  · intro c hc
    simp only [List.mem_append] at hc
    rcases hc with hc | hc | hc | hc | hc
    · revert c; simp
    · exact range_plain _ _ c hc
    · revert c; simp
    · exact range_plain _ _ c hc
    · revert c; simp

/-! ### Edits and hunks -/

theorem readEdit_line (e : Edit) : readEdit (e.sign :: e.line) = some e := by
  cases e <;> rfl

theorem readLines_edits (es : List Edit) (lines : List Line) :
    readLines (Edit.before es).length (Edit.after es).length
        (es.map (fun e => e.sign :: e.line) ++ lines) =
      (readLines 0 0 lines).map fun r => (es ++ r.1, r.2) := by
  induction es with
  | nil => simp
  | cons e es ih =>
    have hbefore : (Edit.before (e :: es)).length =
        (Edit.before [e]).length + (Edit.before es).length := by
      rw [← List.length_append, ← Edit.before_append]; rfl
    have hafter : (Edit.after (e :: es)).length =
        (Edit.after [e]).length + (Edit.after es).length := by
      rw [← List.length_append, ← Edit.after_append]; rfl
    have hopen : ¬((Edit.before (e :: es)).length = 0 ∧ (Edit.after (e :: es)).length = 0) := by
      cases e <;> simp
    rw [List.map_cons, List.cons_append, readLines, if_neg hopen, readEdit_line]
    simp only [Option.bind_eq_bind, Option.bind_some]
    rw [if_pos (by omega), hbefore, hafter, Nat.add_sub_cancel_left, Nat.add_sub_cancel_left, ih]
    cases readLines 0 0 lines <;> rfl

def Hunk.lines (h : Hunk) : List Line := h.header.toList :: h.edits.map fun e => e.sign :: e.line

theorem readLines_hunks (hs : List Hunk) :
    readLines 0 0 (hs.flatMap Hunk.lines) = some ([], hs.map Hunk.block) := by
  induction hs with
  | nil => rfl
  | cons h hs ih =>
    have hlengths : h.block.old.length = (Edit.before h.edits).length ∧
        h.block.new.length = (Edit.after h.edits).length := ⟨rfl, rfl⟩
    rw [List.flatMap_cons, Hunk.lines, List.cons_append, readLines, if_pos ⟨rfl, rfl⟩,
      readSpans_header]
    simp only [Option.bind_eq_bind, Option.bind_some]
    rw [hlengths.1, hlengths.2, readLines_edits, ih]
    simp [Hunk.block]

/-! ### The written text -/

theorem flatten_flatMap {α : Type} (f : α → List Line) (as : List α) :
    (as.flatMap f).flatten = as.flatMap fun a => (f a).flatten := by
  induction as with
  | nil => rfl
  | cons a as ih => rw [List.flatMap_cons, List.flatten_append, List.flatMap_cons, ih]

theorem Edit.render_eq (e : Edit) (h : e.line ≠ []) :
    e.render = (marked (e.sign :: e.line)).flatten := by
  have hended : Ended (e.sign :: e.line) ↔ Ended e.line := ended_cons h
  rw [Edit.render, marked]
  by_cases he : Ended e.line
  · rw [if_pos (hended.mpr he), if_pos (show _ ∨ _ from he)]
    simp
  · have hmarker : "\n\\ No newline at end of file\n".toList = '\n' :: noNewline := by decide
    rw [if_neg (fun h => he (hended.mp h)), if_neg (show ¬(_ ∨ _) from he), hmarker]
    simp only [List.flatten_cons, List.flatten_nil, List.append_nil, List.append_assoc,
      List.cons_append, List.nil_append]

theorem Hunk.render_eq (h : Hunk) (hlines : ∀ e ∈ h.edits, IsLine e.line) :
    h.render = (h.lines.flatMap marked).flatten := by
  obtain ⟨cs, hheader, -⟩ := h.header_eq
  have hended : Ended h.header.toList := by
    rw [hheader]
    exact ended_newline cs
  have hedits : h.edits.flatMap Edit.render =
      h.edits.flatMap fun e => (marked (e.sign :: e.line)).flatten :=
    List.flatMap_congr fun e he => e.render_eq (hlines e he).ne_nil
  rw [Hunk.render, hedits, Hunk.lines, List.flatMap_cons, marked, if_pos hended, List.flatMap_map,
    List.flatten_append, flatten_flatMap, List.flatten_singleton]

theorem Hunk.lines_bare (h : Hunk) (hlines : ∀ e ∈ h.edits, IsLine e.line) :
    ∀ l ∈ h.lines, Bare l := by
  intro l hl
  rcases List.mem_cons.mp hl with rfl | hl
  · obtain ⟨cs, hheader, hhead, hplain⟩ := h.header_eq
    rw [hheader]
    refine ⟨isLine_of_plain _ hplain, ?_⟩
    intro c hc
    rw [List.head?_append, hhead] at hc
    cases hc
    decide
  · obtain ⟨e, he, rfl⟩ := List.mem_map.mp hl
    have hsign : ¬(e.sign = '\n' ∨ e.sign = '\r') ∧ e.sign ≠ '\n' ∧ e.sign ≠ '\\' := by
      cases e <;> simp [Edit.sign]
    refine ⟨.cons hsign.1 (hlines e he), ?_⟩
    intro c hc
    cases hc
    exact hsign.2

def bareLines (hs : List Hunk) : List Line :=
  "--- original file\n".toList :: "+++ fixed file\n".toList :: hs.flatMap Hunk.lines

theorem bareLines_bare {hs : List Hunk} (h : ∀ k ∈ hs, ∀ e ∈ k.edits, IsLine e.line) :
    ∀ l ∈ bareLines hs, Bare l := by
  have hold : Bare "--- original file\n".toList :=
    ⟨isLine_of_plain "--- original file".toList (by simp), by simp⟩
  have hnew : Bare "+++ fixed file\n".toList :=
    ⟨isLine_of_plain "+++ fixed file".toList (by simp), by simp⟩
  intro l hl
  rcases List.mem_cons.mp hl with rfl | hl
  · exact hold
  · rcases List.mem_cons.mp hl with rfl | hl
    · exact hnew
    · obtain ⟨k, hk, hl⟩ := List.mem_flatMap.mp hl
      exact k.lines_bare (h k hk) l hl

theorem terminatedLines_render {hs : List Hunk} (h : ∀ k ∈ hs, ∀ e ∈ k.edits, IsLine e.line) :
    terminatedLines (header ++ .ofList (hs.flatMap Hunk.render)).toList =
      (bareLines hs).flatMap marked := by
  have hhunks : hs.flatMap Hunk.render = ((hs.flatMap Hunk.lines).flatMap marked).flatten := by
    rw [List.flatMap_assoc, flatten_flatMap]
    exact List.flatMap_congr fun k hk => k.render_eq (h k hk)
  have htext : (header ++ String.ofList (hs.flatMap Hunk.render)).toList =
      ((bareLines hs).flatMap marked).flatten := by
    rw [String.toList_append, String.toList_ofList, hhunks]
    rfl
  rw [htext, terminatedLines_marked (bareLines_bare h)]

theorem readPatch_render {hs : List Hunk} (h : ∀ k ∈ hs, ∀ e ∈ k.edits, IsLine e.line) :
    readPatch (header ++ .ofList (hs.flatMap Hunk.render)) =
      some ⟨"original file", "fixed file", hs.map Hunk.block⟩ := by
  rw [readPatch, terminatedLines_render h, unmark_marked (bareLines_bare h)]
  simp only [bareLines, readLines_hunks]
  rfl

theorem bareLines_noReturn {hs : List Hunk} (h : ∀ k ∈ hs, ∀ e ∈ k.edits, IsLine e.line)
    (hreturn : ∀ k ∈ hs, ∀ e ∈ k.edits, e.line.getLast? ≠ some '\r') :
    ∀ l ∈ bareLines hs, l.getLast? ≠ some '\r' := by
  intro l hl
  rcases List.mem_cons.mp hl with rfl | hl
  · decide
  · rcases List.mem_cons.mp hl with rfl | hl
    · decide
    · obtain ⟨k, hk, hl⟩ := List.mem_flatMap.mp hl
      rcases List.mem_cons.mp hl with rfl | hl
      · obtain ⟨cs, hheader, -⟩ := k.header_eq
        rw [hheader, List.getLast?_concat]
        decide
      · obtain ⟨e, he, rfl⟩ := List.mem_map.mp hl
        rw [List.getLast?_cons_of_ne_nil (h k hk e he).ne_nil]
        exact hreturn k hk e he

theorem newlinePieces_render {hs : List Hunk} (h : ∀ k ∈ hs, ∀ e ∈ k.edits, IsLine e.line)
    (hreturn : ∀ k ∈ hs, ∀ e ∈ k.edits, e.line.getLast? ≠ some '\r') :
    newlinePieces (header ++ .ofList (hs.flatMap Hunk.render)).toList =
      terminatedLines (header ++ .ofList (hs.flatMap Hunk.render)).toList := by
  have hbare := bareLines_noReturn h hreturn
  apply newlinePieces_eq
  rw [terminatedLines_render h]
  intro l hl
  obtain ⟨m, hm, hl⟩ := List.mem_flatMap.mp hl
  rw [marked] at hl
  split at hl
  · rw [List.mem_singleton.mp hl]
    exact hbare m hm
  · rcases List.mem_cons.mp hl with rfl | hl
    · rw [List.getLast?_concat]
      decide
    · rw [List.mem_singleton.mp hl]
      decide

end Mender.Diff
