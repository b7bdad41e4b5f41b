import Mender.Text.Blank
import Mender.Text.Lines
import Mender.Text.Slice
import Mender.Hotspot.Template
import Mender.Report.Json
import Mender.Report.Style

namespace Mender.Report

open Hotspot Text

structure HotspotRow where
  id : Nat
  kind : Kind
  depth : Nat
  line : Nat
  text : String
  alternatives : Nat
  deriving Repr, Inhabited

/-- The number of the line that a byte offset lies in; the first where there is no such offset. -/
def lineAt (source : List Char) (offset : Nat) : Nat :=
  match slice? source 0 offset with
  | some front => front.count '\n' + 1
  | none => 1

def hotspotRow (source : List Char) (id depth : Nat) (h : Hotspot) : HotspotRow :=
  let span := h.node.span.getD ⟨0, 0⟩
  let text := firstLine ((slice? source span.start span.stop).getD [])
  ⟨id, h.kind, depth, lineAt source span.start, .ofList text, h.kind.width⟩

def hotspotRows (t : Template) (source : String) : List HotspotRow :=
  t.preorderWithDepth.filterMap fun (id, depth) =>
    (t.hotspot? id).map (hotspotRow source.toList id depth)

def rowText (color : Bool) (row : HotspotRow) : String :=
  let indent : String := .ofList (.replicate (2 * row.depth) ' ')
  let kind := (Style.ofColor .cyan).paintText color row.kind.label
  s!"{indent}[{kind}] line {row.line}  {trim row.text}  ({row.alternatives} alternatives)\n"

def hotspots (color : Bool) (t : Template) (source : String) : String :=
  match hotspotRows t source with
  | [] => (Style.ofColor .yellow).paintText color "No hotspots found." ++ "\n"
  | rows =>
    let size := Style.strong.paintText color (toString t.spaceSize)
    "".intercalate (rows.map (rowText color)) ++ s!"\n{rows.length} hotspots, {size} variants\n"

def rowJson (row : HotspotRow) : Json := .object [
  ("alternatives", .number row.alternatives),
  ("depth", .number row.depth),
  ("id", .number row.id),
  ("kind", .text row.kind.label),
  ("line", .number row.line),
  ("text", .text row.text)]

def hotspotsJson (t : Template) (source : String) : String :=
  (Json.object [
    ("hotspots", .array ((hotspotRows t source).map rowJson)),
    ("variants", .text (toString t.spaceSize))]).pretty

end Mender.Report
