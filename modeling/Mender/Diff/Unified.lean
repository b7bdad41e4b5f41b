import Mender.Text.Lines
import Mender.Diff.Edit

/-! Unified diffs: the edits of two texts in hunks with some lines of context. Which edits they are
is left to a line diff. -/

namespace Mender.Diff

open Text

structure Hunk where
  oldStart : Nat
  newStart : Nat
  edits : List Edit
  deriving Repr, Inhabited

def keptRun : List Edit → Nat × Bool
  | [] => (0, false)
  | .keep _ :: script => let (n, more) := keptRun script; (n + 1, more)
  | _ :: _ => (0, true)

/-- The rest of a hunk that has begun, and the script behind it. A hunk goes on over kept lines
when another edit follows within twice the context. -/
def takeHunk (context : Nat) : List Edit → List Edit × List Edit
  | [] => ([], [])
  | e :: script =>
    let (run, more) := keptRun (e :: script)
    if e.isKeep ∧ (¬more ∨ 2 * context < run) then
      ((e :: script).take (min run context), (e :: script).drop (min run context))
    else
      let (hunk, rest) := takeHunk context script
      (e :: hunk, rest)

theorem takeHunk_append (context : Nat) (script : List Edit) :
    (takeHunk context script).1 ++ (takeHunk context script).2 = script := by
  induction script with
  | nil => rfl
  | cons e script ih =>
    rw [takeHunk]
    split
    split
    · simp
    · simpa using ih

def hunks (context : Nat) (old new : Nat) (script : List Edit) : List Hunk :=
  match _h : script.dropWhile (·.isKeep) with
  | [] => []
  | e :: tail =>
    let quiet := script.takeWhile (·.isKeep)
    let skipped := quiet.length - context
    let edits := quiet.drop skipped ++ e :: (takeHunk context tail).1
    ⟨old + skipped, new + skipped, edits⟩ ::
      hunks context (old + skipped + (Edit.before edits).length)
        (new + skipped + (Edit.after edits).length) (takeHunk context tail).2
termination_by script.length
decreasing_by
  have h1 := congrArg List.length (takeHunk_append context tail)
  have h2 := (List.dropWhile_sublist (fun e : Edit => e.isKeep) (l := script)).length_le
  rw [_h] at h2
  simp only [List.length_append, List.length_cons] at h1 h2 ⊢
  omega

def range (start length : Nat) : String :=
  if length = 1 then toString (start + 1)
  else if length = 0 then s!"{start},0"
  else s!"{start + 1},{length}"

def Edit.sign : Edit → Char
  | .keep _ => ' '
  | .delete _ => '-'
  | .insert _ => '+'

def Edit.render (e : Edit) : List Char :=
  e.sign :: e.line ++
    if e.line.getLast? = some '\n' ∨ e.line.getLast? = some '\r' then []
    else "\n\\ No newline at end of file\n".toList

def Hunk.header (h : Hunk) : String :=
  s!"@@ -{range h.oldStart (Edit.before h.edits).length} " ++
    s!"+{range h.newStart (Edit.after h.edits).length} @@\n"

def Hunk.render (h : Hunk) : List Char := h.header.toList ++ h.edits.flatMap Edit.render

def header : String := "--- original file\n+++ fixed file\n"

def unifiedOf (script : List Edit) : String :=
  match hunks 3 0 0 script with
  | [] => ""
  | hs => header ++ .ofList (hs.flatMap Hunk.render)

def LineDiff.edits (diff : LineDiff) (original fixed : String) : List Edit :=
  diff (terminatedLines original.toList) (terminatedLines fixed.toList)

def hunksOf (diff : LineDiff) (original fixed : String) : List Hunk :=
  hunks 3 0 0 (diff.edits original fixed)

def unified (diff : LineDiff) (original fixed : String) : String :=
  unifiedOf (diff.edits original fixed)

end Mender.Diff
