import Mender.Diff.Paint
import Mender.Proofs.Diff.Patch

/-!
The colours of a unified diff. A line is painted by its first characters, and these tell the part
that it plays in the diff but for one case: the mark of a deleted or inserted line and the content
behind it can together look like the mark of a file header.
-/

namespace Mender.Diff

open Text Report

inductive Role where
  | fileHeader
  | hunkHeader
  | deleted
  | inserted
  | context
  | noNewline
  deriving DecidableEq, Repr

def Role.style : Role → Style
  | fileHeader => .strong
  | hunkHeader => .ofColor .cyan
  | deleted => .ofColor .red
  | inserted => .ofColor .green
  | context => .plain
  | noNewline => .plain

structure Entry where
  role : Role
  text : Line
  deriving DecidableEq, Repr

def chomp (l : Line) : Line := if l.getLast? = some '\n' then l.dropLast else l

def entry (role : Role) (l : Line) : List Entry :=
  ⟨role, chomp l⟩ :: if Ended l then [] else [⟨.noNewline, chomp noNewline⟩]

def Edit.role : Edit → Role
  | keep _ => .context
  | delete _ => .deleted
  | insert _ => .inserted

def Hunk.labelled (h : Hunk) : List (Role × Line) :=
  (.hunkHeader, h.header.toList) :: h.edits.map fun e => (e.role, e.sign :: e.line)

def labelled (hs : List Hunk) : List (Role × Line) :=
  (.fileHeader, "--- original file\n".toList) :: (.fileHeader, "+++ fixed file\n".toList) ::
    hs.flatMap Hunk.labelled

def entries (hs : List Hunk) : List Entry :=
  if hs = [] then [] else (labelled hs).flatMap fun p => entry p.1 p.2

/-- A changed line that looks like the header of a file. -/
def Entry.Lookalike (x : Entry) : Prop :=
  x.role = .deleted ∧ "---".toList <+: x.text ∨ x.role = .inserted ∧ "+++".toList <+: x.text

instance (x : Entry) : Decidable x.Lookalike := inferInstanceAs (Decidable (_ ∨ _))

/-! ### Lines and pieces -/

theorem chomp_newline (l : Line) : chomp (l ++ ['\n']) = l := by
  rw [chomp, if_pos List.getLast?_concat, List.dropLast_concat]

theorem chomp_append {l : Line} (h : l.getLast? = some '\n') : chomp l ++ ['\n'] = l := by
  obtain ⟨l, rfl⟩ := List.getLast?_eq_some_iff.mp h
  rw [chomp_newline]

theorem chomp_cons (c : Char) {l : Line} (hl : l ≠ []) : chomp (c :: l) = c :: chomp l := by
  unfold chomp
  rw [List.getLast?_cons_of_ne_nil hl, List.dropLast_cons_of_ne_nil hl]
  split <;> rfl

theorem newline_notMem_chomp {l : Line} (h : IsLine l) : '\n' ∉ chomp l := by
  induction h with
  | crlf => decide
  | ending hc => rcases hc with rfl | rfl <;> decide
  | last hc =>
    rename_i c
    have hne : c ≠ '\n' := fun h => hc (.inl h)
    have hl : chomp [c] = [c] := if_neg (by simpa using hne)
    simpa [hl] using hne.symm
  | cons hc hl ih =>
    rw [chomp_cons _ hl.ne_nil, List.mem_cons, not_or]
    exact ⟨fun h => hc (.inl h.symm), ih⟩

theorem map_entry (role : Role) {l : Line} (hr : l.getLast? ≠ some '\r') :
    (entry role l).map (fun x => x.text ++ ['\n']) = marked l := by
  have hmarker : chomp noNewline ++ ['\n'] = noNewline := chomp_append (by decide)
  rw [entry, marked]
  by_cases he : Ended l
  · have hl : chomp l ++ ['\n'] = l := chomp_append (he.resolve_right hr)
    simp [if_pos he, hl]
  · have hl : chomp l = l := if_neg fun h => he (.inl h)
    simp [if_neg he, hl, hmarker]

theorem map_snd_labelled (hs : List Hunk) : (labelled hs).map Prod.snd = bareLines hs := by
  have hhunk (h : Hunk) : h.labelled.map Prod.snd = h.lines := by
    simp [Hunk.labelled, Hunk.lines]
  simp [labelled, bareLines, List.map_flatMap, hhunk]

theorem newline_notMem_entries {hs : List Hunk} (h : ∀ k ∈ hs, ∀ e ∈ k.edits, IsLine e.line) :
    ∀ x ∈ entries hs, '\n' ∉ x.text := by
  intro x hx
  rw [entries] at hx
  split at hx
  · cases hx
  · obtain ⟨p, hp, hx⟩ := List.mem_flatMap.mp hx
    have hline : p.2 ∈ bareLines hs := map_snd_labelled hs ▸ List.mem_map_of_mem hp
    obtain ⟨hline, -⟩ := bareLines_bare h p.2 hline
    rw [entry, List.mem_cons] at hx
    rcases hx with rfl | hx
    · exact newline_notMem_chomp hline
    · split at hx
      · cases hx
      · rw [List.mem_singleton.mp hx]
        exact newline_notMem_chomp noNewline_isLine

/-! ### The style of a line -/

def Entry.style (x : Entry) : Style := if x.Lookalike then .strong else x.role.style

theorem lineStyle_hunkHeader (l : Line) : lineStyle ('@' :: '@' :: l) = .ofColor .cyan := by
  simp [lineStyle]

theorem lineStyle_edit (e : Edit) (l : Line) :
    lineStyle (e.sign :: l) = Entry.style ⟨e.role, e.sign :: l⟩ := by
  cases e <;> simp [lineStyle, Edit.sign, Edit.role, Entry.style, Entry.Lookalike, Role.style]

theorem lineStyle_entry {role : Role} {l : Line}
    (hl : lineStyle (chomp l) = Entry.style ⟨role, chomp l⟩) :
    ∀ x ∈ entry role l, lineStyle x.text = x.style := by
  intro x hx
  rw [entry, List.mem_cons] at hx
  rcases hx with rfl | hx
  · exact hl
  · -- What stands behind the line is the marker, which starts with a backslash.
    split at hx
    · cases hx
    · rw [List.mem_singleton.mp hx]
      decide

theorem lineStyle_labelled {hs : List Hunk} (h : ∀ k ∈ hs, ∀ e ∈ k.edits, e.line ≠ []) :
    ∀ p ∈ labelled hs, lineStyle (chomp p.2) = Entry.style ⟨p.1, chomp p.2⟩ := by
  intro p hp
  rw [labelled, List.mem_cons, List.mem_cons, List.mem_flatMap] at hp
  rcases hp with rfl | rfl | ⟨k, hk, hp⟩
  · decide
  · decide
  · rw [Hunk.labelled, List.mem_cons, List.mem_map] at hp
    rcases hp with rfl | ⟨e, he, rfl⟩
    · obtain ⟨l, hl⟩ : ∃ l, k.header.toList = '@' :: '@' :: ' ' :: l := by
        rw [k.header_toList]
        exact ⟨_, rfl⟩
      rw [hl, chomp_cons _ (List.cons_ne_nil _ _), chomp_cons _ (List.cons_ne_nil _ _),
        lineStyle_hunkHeader]
      simp [Entry.style, Entry.Lookalike, Role.style]
    · rw [chomp_cons _ (h k hk e he)]
      exact lineStyle_edit e _

theorem lineStyle_entries {hs : List Hunk} (h : ∀ k ∈ hs, ∀ e ∈ k.edits, e.line ≠ []) :
    ∀ x ∈ entries hs, lineStyle x.text = x.style := by
  intro x hx
  rw [entries] at hx
  split at hx
  · cases hx
  · obtain ⟨p, hp, hx⟩ := List.mem_flatMap.mp hx
    exact lineStyle_entry (lineStyle_labelled h p hp) x hx

/-! ### Painted lines -/

/-- The lines of a diff are the given entries, and the painted diff consists of these in their
styles. -/
structure Painted (diff : String) (xs : List Entry) : Prop where
  lines : diff.toList = xs.flatMap fun x => x.text ++ ['\n']
  whole : ∀ x ∈ xs, '\n' ∉ x.text
  painted : (colorize true diff).toList = xs.flatMap fun x => x.style.paint true x.text ++ ['\n']

theorem paintLine_newline (on : Bool) (l : Line) :
    paintLine on (l ++ ['\n']) = (lineStyle l).paint on l ++ ['\n'] := by
  rw [paintLine, if_pos List.getLast?_concat, List.dropLast_concat]

theorem painted_of_pieces {diff : String} {xs : List Entry}
    (hpieces : newlinePieces diff.toList = xs.map fun x => x.text ++ ['\n'])
    (hwhole : ∀ x ∈ xs, '\n' ∉ x.text) (hstyle : ∀ x ∈ xs, lineStyle x.text = x.style) :
    Painted diff xs := by
  refine ⟨?_, hwhole, ?_⟩
  · rw [← newlinePieces_flatten diff.toList, hpieces, List.flatMap_def]
  · rw [colorize, String.toList_ofList, hpieces, List.flatMap_map]
    apply List.flatMap_congr
    intro x hx
    rw [paintLine_newline, hstyle x hx]

section Script

variable {script : List Edit} {original fixed : String}
  (hbefore : Edit.before script = terminatedLines original.toList)
  (hafter : Edit.after script = terminatedLines fixed.toList)
  (horiginal : ∀ l ∈ terminatedLines original.toList, l.getLast? ≠ some '\r')
  (hfixed : ∀ l ∈ terminatedLines fixed.toList, l.getLast? ≠ some '\r')

include hbefore hafter horiginal hfixed

theorem newlinePieces_entries : newlinePieces (unifiedOf script).toList =
    (entries (hunks 3 0 0 script)).map fun x => x.text ++ ['\n'] := by
  have hlaid := hunks_laid 3 0 0 script
  rw [newlinePieces_unifiedOf hbefore hafter horiginal hfixed]
  by_cases hq : Quiet script
  · rw [unifiedOf_eq_empty.mpr hq, hlaid.eq_nil_iff.mpr hq]
    exact terminatedLines_nil
  · have hne : hunks 3 0 0 script ≠ [] := fun h => hq (hlaid.eq_nil_iff.mp h)
    have hlines : ∀ k ∈ hunks 3 0 0 script, ∀ e ∈ k.edits, IsLine e.line := fun k hk e he =>
      isLine_of_script hbefore hafter e (hlaid.mem k hk e he)
    have hreturn := bareLines_noReturn hlines fun k hk e he =>
      noReturn_of_script hbefore hafter horiginal hfixed e (hlaid.mem k hk e he)
    rw [unifiedOf_eq hq, terminatedLines_render hlines, entries, if_neg hne, List.map_flatMap,
      ← map_snd_labelled, List.flatMap_map]
    apply List.flatMap_congr
    intro p hp
    apply (map_entry p.1 _).symm
    apply hreturn
    rw [← map_snd_labelled]
    exact List.mem_map_of_mem hp

theorem painted_unifiedOf : Painted (unifiedOf script) (entries (hunks 3 0 0 script)) := by
  have hlines : ∀ k ∈ hunks 3 0 0 script, ∀ e ∈ k.edits, IsLine e.line := fun k hk e he =>
    isLine_of_script hbefore hafter e ((hunks_laid 3 0 0 script).mem k hk e he)
  apply painted_of_pieces (newlinePieces_entries hbefore hafter horiginal hfixed)
  · exact newline_notMem_entries hlines
  · exact lineStyle_entries fun k hk e he => (hlines k hk e he).ne_nil

end Script

theorem painted_unified {diff : LineDiff} (hdiff : diff.Lawful) {original fixed : String}
    (horiginal : ∀ l ∈ terminatedLines original.toList, l.getLast? ≠ some '\r')
    (hfixed : ∀ l ∈ terminatedLines fixed.toList, l.getLast? ≠ some '\r') :
    Painted (unified diff original fixed) (entries (hunksOf diff original fixed)) :=
  painted_unifiedOf (hdiff.before_edits original fixed) (hdiff.after_edits original fixed) horiginal
    hfixed

/-- Where no line of the texts ends with a carriage return alone, every line of their diff has the
style of its role, but for deleted and inserted lines that look like the header of a file: these
have the style of one. -/
theorem colorize_roles {original fixed : String}
    (horiginal : ∀ l ∈ terminatedLines original.toList, l.getLast? ≠ some '\r')
    (hfixed : ∀ l ∈ terminatedLines fixed.toList, l.getLast? ≠ some '\r') :
    (∀ diff : LineDiff, diff.Lawful →
      Painted (unified diff original fixed) (entries (hunksOf diff original fixed))) ∧
    ∀ script, Edit.before script = terminatedLines original.toList →
      Edit.after script = terminatedLines fixed.toList →
      Painted (unifiedOf script) (entries (hunks 3 0 0 script)) := by
  constructor
  · intro diff hdiff
    exact painted_unified hdiff horiginal hfixed
  · intro script hbefore hafter
    exact painted_unifiedOf hbefore hafter horiginal hfixed

theorem colorize_roles_unended :
    (∀ l ∈ terminatedLines "a\n--b\n".toList, l.getLast? ≠ some '\r') ∧
    (∀ l ∈ terminatedLines "a\n++c".toList, l.getLast? ≠ some '\r') ∧
    LineDiff.Lawful script ∧
    Painted (unified script "a\n--b\n" "a\n++c") (entries (hunksOf script "a\n--b\n" "a\n++c")) ∧
    Painted (unifiedOf [.keep "a\n".toList, .insert "++c".toList, .delete "--b\n".toList])
      (entries (hunks 3 0 0
        [.keep "a\n".toList, .insert "++c".toList, .delete "--b\n".toList])) := by
  have horiginal : ∀ l ∈ terminatedLines "a\n--b\n".toList, l.getLast? ≠ some '\r' := by decide
  have hfixed : ∀ l ∈ terminatedLines "a\n++c".toList, l.getLast? ≠ some '\r' := by decide
  obtain ⟨hown, hany⟩ := colorize_roles horiginal hfixed
  exact ⟨horiginal, hfixed, lawful_script, hown script lawful_script,
    hany _ (by decide) (by decide)⟩

/-- A deleted line `--x > 1` is bold like the headers of the files, where red is due to it. -/
theorem colorize_lookalike :
    (∀ l ∈ terminatedLines "--x > 1\n".toList, l.getLast? ≠ some '\r') ∧
    (∀ l ∈ terminatedLines "--x >= 1\n".toList, l.getLast? ≠ some '\r') ∧
    ⟨.deleted, "---x > 1".toList⟩ ∈ entries (hunksOf script "--x > 1\n" "--x >= 1\n") ∧
    (colorize true (unified script "--x > 1\n" "--x >= 1\n")).toList ≠
      (entries (hunksOf script "--x > 1\n" "--x >= 1\n")).flatMap fun x =>
        x.role.style.paint true x.text ++ ['\n'] := by
  have horiginal : ∀ l ∈ terminatedLines "--x > 1\n".toList, l.getLast? ≠ some '\r' := by decide
  have hfixed : ∀ l ∈ terminatedLines "--x >= 1\n".toList, l.getLast? ≠ some '\r' := by decide
  have hentries : entries (hunksOf script "--x > 1\n" "--x >= 1\n") =
      [⟨.fileHeader, "--- original file".toList⟩, ⟨.fileHeader, "+++ fixed file".toList⟩,
        ⟨.hunkHeader, "@@ -1 +1 @@".toList⟩, ⟨.deleted, "---x > 1".toList⟩,
        ⟨.inserted, "+--x >= 1".toList⟩] := by
    decide +kernel
  refine ⟨horiginal, hfixed, ?_, ?_⟩
  · rw [hentries]
    decide
  · rw [(painted_unified lawful_script horiginal hfixed).painted, hentries]
    decide

end Mender.Diff
