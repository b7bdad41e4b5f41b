import Mender.Text.Slice
import Mender.Syntax.Tree
import Mender.Syntax.Parsed
import Mender.Syntax.Fault

/-!
From parser rows to a lossless tree. A row without rows below it becomes a token; source text that
no row covers becomes trivia, so the tree of an orderly parse has the text of its source.
-/

namespace Mender.Syntax

open Text

/-- A Ruby grammar: the rows of a text, if the parser answers any. -/
abbrev Grammar := String → Option Parsed

def gap (source : List Char) (start stop : Nat) (rest : Children) : Children :=
  if start < stop then
    match slice? source start stop with
    | some text => .token none ⟨trivia, .ofList text⟩ rest
    | none => rest
  else rest

/-- Lowers the rows of a parent that ends at `stop`, all text before `offset` being written. -/
def Rows.lower (source : List Char) (offset stop : Nat) : Rows → Children
  | nil => gap source offset stop .nil
  | cons r nil rest =>
    gap source offset r.start <|
      .token r.field ⟨r.kind, .ofList ((slice? source r.start r.stop).getD [])⟩ <|
        rest.lower source (max offset r.stop) stop
  | cons r (cons r' below rest') rest =>
    gap source offset r.start <|
      .node r.field r.kind (some ⟨r.start, r.stop⟩)
        ((cons r' below rest').lower source r.start r.stop) <|
        rest.lower source (max offset r.stop) stop

/-- The tree of a parse without faults; text outside the root's range is kept as trivia. -/
def Parsed.lower (source : List Char) (p : Parsed) : Node :=
  let inner := p.below.lower source p.root.start p.root.stop
  let size := byteLength source
  if p.root.start = 0 ∧ size ≤ p.root.stop then
    ⟨p.root.kind, some ⟨p.root.start, p.root.stop⟩, inner⟩
  else
    ⟨p.root.kind, some ⟨0, size⟩,
      gap source 0 p.root.start (inner ++ gap source p.root.stop size .nil)⟩

def Parsed.fault (p : Parsed) : Fault :=
  let row := p.firstFault
  ⟨row.line + 1, row.column + 1, if row.isMissing then .missing row.kind else .unexpected⟩

def parse (grammar : Grammar) (source : String) : Except Fault Node :=
  match grammar source with
  | none => .error ⟨0, 0, .noTree⟩
  | some p => if p.root.hasError then .error p.fault else .ok (p.lower source.toList)

end Mender.Syntax
