import Mender.Proofs.Diff.Hunks
import Mender.Proofs.Diff.Reader
import Mender.Proofs.Diff.Script

namespace Mender.Diff

open Text

/-! ### Applying hunks -/

def Span.front (s : Span) : Nat := if s.length = 0 then s.start else s.start - 1

@[simp] theorem Span.front_behind (front length : Nat) : (behind front length).front = front := by
  rw [Span.front, behind]
  split <;> simp_all

@[simp] theorem Span.length_behind (front length : Nat) : (behind front length).length = length :=
  rfl

/-- What hunks make of the lines behind the first `done` of a text. Each has to start behind the one
in front of it and to find the lines that it keeps and deletes there. -/
def applyBlocks (done : Nat) : List Block → List Line → Option (List Line)
  | [], lines => some lines
  | b :: blocks, lines =>
    let gap := b.old.front - done
    if done ≤ b.old.front ∧ gap ≤ lines.length then do
      let rest ← (Edit.before b.edits).isPrefixOf? (lines.drop gap)
      let tail ← applyBlocks (b.old.front + (Edit.before b.edits).length) blocks rest
      return lines.take gap ++ Edit.after b.edits ++ tail
    else none

def Patch.apply (p : Patch) (text : String) : Option String :=
  (applyBlocks 0 p.blocks (terminatedLines text.toList)).map fun lines => .ofList lines.flatten

theorem Laid.apply {context old new : Nat} {script : List Edit} {hs : List Hunk}
    (h : Laid context old new script hs) :
    applyBlocks old (hs.map Hunk.block) (Edit.before script) = some (Edit.after script) := by
  induction h with
  | quiet hq => rw [List.map_nil, applyBlocks, hq.after_eq]
  | @hunk old new gap edits rest hs hgap _ _ _ ih =>
    have hfront : old + gap.length - old = (Edit.before gap).length := by
      rw [hgap.length_before]
      omega
    have hprefix : (Edit.before edits).isPrefixOf? (Edit.before edits ++ Edit.before rest) =
        some (Edit.before rest) := List.isPrefixOf?_eq_some_iff_append_eq.mpr rfl
    have hstart : (Hunk.block ⟨old + gap.length, new + gap.length, edits⟩).old.front =
        old + gap.length := Span.front_behind _ _
    have hedits : (Hunk.block ⟨old + gap.length, new + gap.length, edits⟩).edits = edits := rfl
    have hfits : (Edit.before gap).length ≤ (Edit.before (gap ++ edits ++ rest)).length := by
      simp only [Edit.before_append, List.length_append]
      omega
    rw [List.map_cons, applyBlocks, hstart, hedits, hfront, if_pos ⟨Nat.le_add_right _ _, hfits⟩]
    simp only [Edit.before_append, Edit.after_append, List.append_assoc, List.drop_left,
      List.take_left, hprefix, ih, hgap.after_eq, Option.bind_eq_bind, Option.bind_some]
    rfl

/-! ### Where hunks stand -/

def Span.Places (s : Span) (lines text : List Line) : Prop :=
  ∃ front back, text = front ++ lines ++ back ∧ s = .behind front.length lines.length

def Span.stop (s : Span) : Nat := s.front + s.length

def Block.Precedes (a b : Block) : Prop :=
  a.old.stop < b.old.front ∧ a.new.stop < b.new.front

/-- A diff that reads as a patch from one text to another, with so many lines of context. -/
structure Leads (context : Nat) (diff original fixed : String) (p : Patch) : Prop where
  reads : readPatch diff = some p
  names : p.oldName = "original file" ∧ p.newName = "fixed file"
  applies : p.apply original = some fixed
  old : ∀ b ∈ p.blocks, b.old.Places (Edit.before b.edits) (terminatedLines original.toList)
  new : ∀ b ∈ p.blocks, b.new.Places (Edit.after b.edits) (terminatedLines fixed.toList)
  ordered : p.blocks.Pairwise Block.Precedes
  framed : ∀ b ∈ p.blocks, Framed context (b.old.front = 0 ∧ b.new.front = 0)
    (b.old.stop = (terminatedLines original.toList).length ∧
      b.new.stop = (terminatedLines fixed.toList).length) b.edits

theorem Laid.places {context : Nat} {script : List Edit} {hs : List Hunk}
    (h : Laid context 0 0 script hs) : ∀ b ∈ hs.map Hunk.block,
      b.old.Places (Edit.before b.edits) (Edit.before script) ∧
      b.new.Places (Edit.after b.edits) (Edit.after script) ∧
      Framed context (b.old.front = 0 ∧ b.new.front = 0)
        (b.old.stop = (Edit.before script).length ∧ b.new.stop = (Edit.after script).length)
        b.edits := by
  intro b hb
  obtain ⟨k, hk, rfl⟩ := List.mem_map.mp hb
  obtain ⟨front, back, rfl, hframed, hold, hnew⟩ := h.split k hk
  rw [Nat.zero_add] at hold hnew
  have hstart : k.block.old.front = (Edit.before front).length ∧
      k.block.new.front = (Edit.after front).length :=
    ⟨(Span.front_behind _ _).trans hold, (Span.front_behind _ _).trans hnew⟩
  refine ⟨⟨Edit.before front, Edit.before back, ?_, ?_⟩, ⟨Edit.after front, Edit.after back, ?_, ?_⟩,
    hframed.mono ?_ ?_⟩
  · rw [Edit.before_append, Edit.before_append]
    rfl
  · rw [← hold]
    rfl
  · rw [Edit.after_append, Edit.after_append]
    rfl
  · rw [← hnew]
    rfl
  · rintro rfl
    exact hstart
  · rintro rfl
    rw [List.append_nil, Edit.before_append, Edit.after_append, List.length_append,
      List.length_append, Span.stop, Span.stop, hstart.1, hstart.2]
    exact ⟨rfl, rfl⟩

theorem unifiedOf_eq {script : List Edit} (h : ¬Quiet script) : unifiedOf script =
    header ++ .ofList ((hunks 3 0 0 script).flatMap Hunk.render) := by
  rw [unifiedOf]
  split
  · next hnil => exact absurd ((hunks_laid 3 0 0 script).eq_nil_iff.mp hnil) h
  · rfl

theorem unifiedOf_eq_empty {script : List Edit} : unifiedOf script = "" ↔ Quiet script := by
  constructor
  · intro he
    by_contra hq
    rw [unifiedOf_eq hq] at he
    have hlist := congrArg String.toList he
    rw [String.toList_append] at hlist
    cases List.append_eq_nil_iff.mp hlist |>.1
  · intro hq
    rw [unifiedOf, (hunks_laid 3 0 0 script).eq_nil_iff.mpr hq]

section Script

variable {script : List Edit} {original fixed : String}
  (hbefore : Edit.before script = terminatedLines original.toList)
  (hafter : Edit.after script = terminatedLines fixed.toList)

include hbefore hafter

theorem line_mem_texts {e : Edit} (h : e ∈ script) :
    e.line ∈ terminatedLines original.toList ∨ e.line ∈ terminatedLines fixed.toList := by
  rw [← hbefore, ← hafter]
  exact Edit.line_mem h

theorem isLine_of_script : ∀ e ∈ script, IsLine e.line := by
  intro e he
  rcases line_mem_texts hbefore hafter he with h | h
  · exact isLine_of_mem _ h
  · exact isLine_of_mem _ h

theorem eq_of_quiet (h : Quiet script) : original = fixed := by
  have hlines : terminatedLines original.toList = terminatedLines fixed.toList := by
    rw [← hbefore, ← hafter, h.after_eq]
  exact String.toList_injective (terminatedLines_injective hlines)

theorem unifiedOf_leads (h : ¬Quiet script) : ∃ p, Leads 3 (unifiedOf script) original fixed p := by
  have hlaid := hunks_laid 3 0 0 script
  have hlines : ∀ k ∈ hunks 3 0 0 script, ∀ e ∈ k.edits, IsLine e.line := fun k hk e he =>
    isLine_of_script hbefore hafter e (hlaid.mem k hk e he)
  refine ⟨⟨"original file", "fixed file", (hunks 3 0 0 script).map Hunk.block⟩, ?_, ⟨rfl, rfl⟩, ?_,
    ?_, ?_, ?_, ?_⟩
  · rw [unifiedOf_eq h]
    exact readPatch_render hlines
  · rw [Patch.apply, ← hbefore, hlaid.apply, hafter]
    rw [Option.map_some, terminatedLines_flatten, String.ofList_toList]
  · intro b hb
    rw [← hbefore]
    exact (hlaid.places b hb).1
  · intro b hb
    rw [← hafter]
    exact (hlaid.places b hb).2.1
  · apply List.pairwise_map.mpr
    apply hlaid.ordered.imp
    intro a b hab
    simpa only [Block.Precedes, Hunk.block, Span.stop, Span.front_behind, Span.length_behind,
      Hunk.oldEnd, Hunk.newEnd] using hab
  · intro b hb
    rw [← hbefore, ← hafter]
    exact (hlaid.places b hb).2.2

section Return

variable (horiginal : ∀ l ∈ terminatedLines original.toList, l.getLast? ≠ some '\r')
  (hfixed : ∀ l ∈ terminatedLines fixed.toList, l.getLast? ≠ some '\r')

include horiginal hfixed

theorem noReturn_of_script : ∀ e ∈ script, e.line.getLast? ≠ some '\r' := by
  intro e he
  rcases line_mem_texts hbefore hafter he with h | h
  · exact horiginal _ h
  · exact hfixed _ h

theorem newlinePieces_unifiedOf :
    newlinePieces (unifiedOf script).toList = terminatedLines (unifiedOf script).toList := by
  have hlaid := hunks_laid 3 0 0 script
  by_cases hq : Quiet script
  · rw [unifiedOf_eq_empty.mpr hq]
    exact terminatedLines_nil.symm
  · rw [unifiedOf_eq hq]
    apply newlinePieces_render
    · intro k hk e he
      exact isLine_of_script hbefore hafter e (hlaid.mem k hk e he)
    · intro k hk e he
      exact noReturn_of_script hbefore hafter horiginal hfixed e (hlaid.mem k hk e he)

end Return

end Script

namespace LineDiff.Lawful

variable {diff : LineDiff} (hdiff : diff.Lawful) (original fixed : String)

include hdiff

theorem before_edits :
    Edit.before (diff.edits original fixed) = terminatedLines original.toList :=
  hdiff.before _ _

theorem after_edits : Edit.after (diff.edits original fixed) = terminatedLines fixed.toList :=
  hdiff.after _ _

theorem quiet_edits_iff : Quiet (diff.edits original fixed) ↔ original = fixed := by
  constructor
  · exact eq_of_quiet (hdiff.before_edits original fixed) (hdiff.after_edits original fixed)
  · rintro rfl
    exact hdiff.same _

end LineDiff.Lawful

/-- The diff is empty if and only if the texts are equal, and else a patch from the one to the other
with three lines of context. The second part asks nothing of the script but that it leads from the
lines of the one text to those of the other; such a script may be busy between equal texts. -/
theorem unified_patch :
    (∀ diff : LineDiff, diff.Lawful → ∀ original fixed : String,
      (unified diff original fixed = "" ↔ original = fixed) ∧
      (original ≠ fixed → ∃ p, Leads 3 (unified diff original fixed) original fixed p)) ∧
    ∀ (script : List Edit) (original fixed : String),
      Edit.before script = terminatedLines original.toList →
      Edit.after script = terminatedLines fixed.toList →
      (unifiedOf script = "" ↔ Quiet script) ∧ (Quiet script → original = fixed) ∧
      (¬Quiet script → ∃ p, Leads 3 (unifiedOf script) original fixed p) := by
  constructor
  · intro diff hdiff original fixed
    have hquiet := hdiff.quiet_edits_iff original fixed
    constructor
    · exact unifiedOf_eq_empty.trans hquiet
    · intro hne
      apply unifiedOf_leads (hdiff.before_edits original fixed) (hdiff.after_edits original fixed)
      exact mt hquiet.mp hne
  · intro script original fixed hbefore hafter
    exact ⟨unifiedOf_eq_empty, eq_of_quiet hbefore hafter, unifiedOf_leads hbefore hafter⟩

theorem unified_patch_unended :
    let change : List Edit := [.keep ['a', '\n'], .delete ['b'], .insert ['c', '\r']]
    let same : List Edit := [.keep ['a', '\n']]
    LineDiff.Lawful script ∧ "a\nb" ≠ "a\nc\r" ∧
      (∃ p, Leads 3 (unified script "a\nb" "a\nc\r") "a\nb" "a\nc\r" p) ∧
      unified script "a\nb" "a\nb" = "" ∧
      (Edit.before change = terminatedLines "a\nb".toList ∧
        Edit.after change = terminatedLines "a\nc\r".toList ∧ ¬Quiet change) ∧
      (∃ p, Leads 3 (unifiedOf change) "a\nb" "a\nc\r" p) ∧
      (Edit.before same = terminatedLines "a\n".toList ∧
        Edit.after same = terminatedLines "a\n".toList ∧ Quiet same) ∧
      unifiedOf same = "" := by
  have hne : "a\nb" ≠ "a\nc\r" := by decide
  have hbefore : Edit.before [.keep ['a', '\n'], .delete ['b'], .insert ['c', '\r']] =
      terminatedLines "a\nb".toList := by decide
  have hafter : Edit.after [.keep ['a', '\n'], .delete ['b'], .insert ['c', '\r']] =
      terminatedLines "a\nc\r".toList := by decide
  have hchange : ¬Quiet [.keep ['a', '\n'], .delete ['b'], .insert ['c', '\r']] := by decide
  have hsame : Edit.before [.keep ['a', '\n']] = terminatedLines "a\n".toList := by decide
  have hquiet : Quiet [.keep ['a', '\n']] := by decide
  have hlawful := unified_patch.1 script lawful_script
  exact ⟨lawful_script, hne, (hlawful _ _).2 hne, (hlawful _ _).1.mpr rfl,
    ⟨hbefore, hafter, hchange⟩, (unified_patch.2 _ _ _ hbefore hafter).2.2 hchange,
    ⟨hsame, hsame, hquiet⟩, (unified_patch.2 _ _ _ hsame hsame).1.mpr hquiet⟩

example : unified script "a\nb" "a\nc\r" = "--- original file\n+++ fixed file\n@@ -1,2 +1,2 @@\n" ++
    " a\n-b\n\\ No newline at end of file\n+c\r" := by
  cbv

end Mender.Diff
