import Mender.Report.Inventory
import Mender.Proofs.Text.Lines
import Mender.Proofs.Syntax.Place
import Mender.Proofs.Hotspot.Capture
import Mender.Proofs.Variant.Identity

/-!
The inventory of hotspots points at the program text. A row has the line and the text of the node
that its hotspot was cut from, though only the hollowed-out node is at hand; the text of that node
is what the hotspot resolves to when all selectors stay as they are.
-/

namespace Mender.Report

open Text Syntax Hotspot Variant

theorem lineAt_append (front back : List Char) :
    lineAt (front ++ back) (byteLength front) = front.count '\n' + 1 := by
  have hslice : slice? (front ++ back) 0 (byteLength front) = some front :=
    slice?_of_append [] front back
  rw [lineAt, hslice]

theorem lineAt_eq_count {source : String} {front back : List Char}
    (h : source.toList = front ++ back) :
    lineAt source.toList (byteLength front) =
      ((bytes source).take (byteLength front)).count 10 + 1 := by
  have hsource : source = .ofList (front ++ back) := by rw [← h, String.ofList_toList]
  rw [h, lineAt_append, hsource, count_newline_take]

theorem lineAt_le {front back front' back' : List Char} (h : front ++ back = front' ++ back')
    (hle : byteLength front ≤ byteLength front') :
    lineAt (front ++ back) (byteLength front) ≤ lineAt (front ++ back) (byteLength front') := by
  have hfront : front <+: front' :=
    prefix_of_byteLength_le (List.prefix_append front back) (h ▸ List.prefix_append front' back') hle
  rw [lineAt_append, h, lineAt_append]
  exact Nat.add_le_add_right (hfront.count_le '\n') 1

theorem mem_hotspotRows {t : Template} {source : String} {row : HotspotRow} :
    row ∈ hotspotRows t source ↔ ∃ id depth h, (id, depth) ∈ t.preorderWithDepth ∧
      t.hotspot? id = some h ∧ row = hotspotRow source.toList id depth h := by
  rw [hotspotRows, List.mem_filterMap]
  constructor
  · rintro ⟨⟨id, depth⟩, hid, hrow⟩
    obtain ⟨h, hh, rfl⟩ := Option.map_eq_some_iff.mp hrow
    exact ⟨id, depth, h, hid, hh, rfl⟩
  · rintro ⟨id, depth, h, hid, hh, rfl⟩
    exact ⟨(id, depth), hid, Option.map_eq_some_iff.mpr ⟨h, hh, rfl⟩⟩

def lineOf (source : List Char) (span : Option Syntax.Span) : Nat :=
  lineAt source (span.getD ⟨0, 0⟩).start

section Detect

variable {T : Node} {source : String}

theorem map_id_depth_hotspotRows (T : Node) (source : String) :
    (hotspotRows (detect T) source).map (fun row => (row.id, row.depth)) =
      (detect T).preorderWithDepth := by
  have hrow : ∀ p ∈ (detect T).preorderWithDepth,
      (((detect T).hotspot? p.1).map (hotspotRow source.toList p.1 p.2)).map
        (fun row => (row.id, row.depth)) = some p := by
    intro p hp
    have hmem : p.1 ∈ (detect T).preorder := List.mem_map_of_mem hp
    have hlt := Template.mem_preorder_detect.mp hmem
    rw [Template.hotspot?, List.getElem?_eq_getElem hlt]
    rfl
  rw [hotspotRows, List.map_filterMap, List.filterMap_congr hrow, List.filterMap_some]

theorem map_id_hotspotRows (T : Node) (source : String) :
    (hotspotRows (detect T) source).map (·.id) = (detect T).preorder := by
  rw [Template.preorder, ← map_id_depth_hotspotRows T source, List.map_map]
  rfl

theorem map_line_hotspotRows (T : Node) (source : String) :
    (hotspotRows (detect T) source).map (·.line) =
      (T.children.nodes.filterMap sighting?).map fun x => lineOf source.toList x.2.2 := by
  have hrow : ∀ p ∈ (detect T).preorderWithDepth,
      (((detect T).hotspot? p.1).map (hotspotRow source.toList p.1 p.2)).map (·.line) =
        ((((detect T).hotspot? p.1).map sighting).map fun x => lineOf source.toList x.2.2) := by
    intro p hp
    cases (detect T).hotspot? p.1 <;> rfl
  have hsight := congrArg (List.filterMap fun o => o.map fun x => lineOf source.toList x.2.2)
    (sightings_detect T)
  rw [Template.preorder, List.map_map, List.filterMap_map, List.filterMap_map] at hsight
  rw [hotspotRows, List.map_filterMap, List.filterMap_congr hrow]
  exact hsight.trans (congrFun List.filterMap_eq_map _)

end Detect

theorem lineOf_le {source : List Char} {m n : Node} (hm : m.Stands source) (hn : n.Stands source)
    (h : m.StartsBy n) : lineOf source m.span ≤ lineOf source n.span := by
  obtain ⟨front, back, hsource, hspan⟩ := hm
  obtain ⟨front', back', hsource', hspan'⟩ := hn
  have hle : byteLength front ≤ byteLength front' := h _ hspan _ hspan'
  rw [List.append_assoc] at hsource hsource'
  rw [lineOf, lineOf, hspan, hspan', hsource]
  exact lineAt_le (hsource.symm.trans hsource') hle

structure Describes (t : Template) (source : String) (row : HotspotRow) (h : Hotspot) : Prop where
  hotspot : t.hotspot? row.id = some h
  kind : row.kind = h.kind
  alternatives : row.alternatives = h.kind.alternatives.length
  depth : ∃ outer : Finset Nat, outer.card = row.depth ∧ ∀ j, j ∈ outer ↔ t.Encloses j row.id
  place : ∃ front text back, source.toList = front ++ text ++ back ∧
    h.node.span = some ⟨byteLength front, byteLength (front ++ text)⟩ ∧
    row.line = ((bytes source).take (byteLength front)).count 10 + 1 ∧
    FirstLine text row.text.toList ∧
    ∀ a : Assignment, a.Keeps t → ∃ n, resolveHotspot t a row.id = .ok n ∧ n.text.toList = text

theorem text_of_keeps {T : Node} (hT : T.hasHoles = false) {source : List Char}
    (hstands : ∀ n ∈ T.children.nodes, n.Stands source) {id : Nat} {h : Hotspot}
    (hid : (detect T).hotspot? id = some h) {span : Syntax.Span} (hspan : h.node.span = some span)
    {a : Assignment} (ha : a.Keeps (detect T)) :
    ∃ m, resolveHotspot (detect T) a id = .ok m ∧
      slice? source span.start span.stop = some m.text.toList := by
  obtain ⟨n, hn, hspan', m, hm, htext⟩ := ha.resolve hT hid
  rw [hspan'] at hspan
  refine ⟨m, hm, ?_⟩
  rw [htext]
  exact (hstands n hn).slice? hspan

theorem describes_hotspotRow {T : Node} (hT : T.hasHoles = false) {source : String}
    (hstands : ∀ n ∈ T.children.nodes, n.Stands source.toList) {id depth : Nat} {h : Hotspot}
    (hdepth : (id, depth) ∈ (detect T).preorderWithDepth)
    (hid : (detect T).hotspot? id = some h) :
    Describes (detect T) source (hotspotRow source.toList id depth h) h := by
  obtain ⟨n, hn, hspan, -⟩ := (Assignment.keeps_identity (detect T)).resolve hT hid
  obtain ⟨front, back, hsource, hplace⟩ := hstands n hn
  have hslice := (hstands n hn).slice? hplace
  rw [← hspan] at hplace
  refine ⟨hid, rfl, rfl, depth_eq_card hT hdepth, front, n.text.toList, back, hsource, hplace, ?_, ?_,
    ?_⟩
  · rw [hotspotRow, hplace]
    rw [List.append_assoc] at hsource
    exact lineAt_eq_count hsource
  · rw [hotspotRow, hplace]
    dsimp only [Option.getD_some]
    rw [hslice, String.toList_ofList, Option.getD_some]
    exact firstLine_spec n.text.toList
  · -- Another assignment may point to another node, but its span is that of the hotspot all the same.
    intro a ha
    obtain ⟨m, hm, htext⟩ := text_of_keeps hT hstands hid hplace ha
    exact ⟨m, hm, Option.some.inj (htext.symm.trans hslice)⟩

theorem ascending_hotspotRows {T : Node} {source : String} {start stop : Nat}
    (h : Sited source.toList start stop T.children.nodes) :
    (hotspotRows (detect T) source).Pairwise fun r s => r.line ≤ s.line := by
  have hlines : ((hotspotRows (detect T) source).map (·.line)).Pairwise (· ≤ ·) := by
    rw [map_line_hotspotRows, List.pairwise_map, List.pairwise_filterMap]
    refine h.ordered.imp_of_mem ?_
    intro m n hm hn hmn x hx y hy
    obtain ⟨-, -, rfl⟩ := Option.map_eq_some_iff.mp hx
    obtain ⟨-, -, rfl⟩ := Option.map_eq_some_iff.mp hy
    exact lineOf_le (h.stands m hm) (h.stands n hn) hmn
  exact List.pairwise_map.mp hlines

/-- The inventory of a parsed text has a row for every hotspot, each of which describes it. The rows
stand in the order of the template, and no line number is less than one before. -/
theorem inventory_parse {grammar : Grammar} {source : String} {p : Parsed}
    (hp : grammar source = some p) (hclean : p.root.hasError = false)
    (hplaced : ∀ r ∈ p.toList, r.Placed source.toList) (ho : p.Orderly) :
    ∃ tree, parse grammar source = .ok tree ∧
      let t := detect tree
      let rows := hotspotRows t source
      rows.map (fun row => (row.id, row.depth)) = t.preorderWithDepth ∧
      rows.map (·.id) = t.preorder ∧
      t.preorder.Perm (List.range t.hotspots.length) ∧
      (∀ row ∈ rows, ∃ h, Describes t source row h) ∧
      rows.Pairwise (fun r s => r.line ≤ s.line) ∧
      (Assignment.identity t).Keeps t := by
  have hsited := sited_parsed hplaced ho
  refine ⟨p.lower source.toList, parse_of_clean hp hclean, map_id_depth_hotspotRows _ source,
    map_id_hotspotRows _ source, Template.preorder_detect_perm _, ?_, ascending_hotspotRows hsited,
    Assignment.keeps_identity _⟩
  intro row hrow
  obtain ⟨id, depth, h, hdepth, hid, rfl⟩ := mem_hotspotRows.mp hrow
  exact ⟨h, describes_hotspotRow (hasHoles_parsed p) hsited.stands hdepth hid⟩

def selection : Parsed :=
  ⟨⟨"program", 0, 28, none, false, false, false, 0, 0⟩,
    .cons ⟨"comment", 0, 4, none, false, false, false, 0, 0⟩ .nil <|
    .cons ⟨"call", 5, 27, none, false, false, false, 1, 0⟩
      (.cons ⟨"identifier", 5, 7, some "receiver", false, false, false, 1, 0⟩ .nil <|
       .cons ⟨".", 7, 8, none, false, false, false, 1, 2⟩ .nil <|
       .cons ⟨"identifier", 8, 14, some "method", false, false, false, 1, 3⟩ .nil <|
       .cons ⟨"do_block", 15, 27, some "block", false, false, false, 1, 10⟩
        (.cons ⟨"do", 15, 17, none, false, false, false, 1, 10⟩ .nil <|
         .cons ⟨"binary", 20, 23, none, false, false, false, 2, 2⟩
          (.cons ⟨"identifier", 20, 21, some "left", false, false, false, 2, 2⟩ .nil <|
           .cons ⟨">", 21, 22, some "operator", false, false, false, 2, 3⟩ .nil <|
           .cons ⟨"integer", 22, 23, some "right", false, false, false, 2, 4⟩ .nil .nil) <|
         .cons ⟨"end", 24, 27, none, false, false, false, 3, 0⟩ .nil .nil) .nil) .nil⟩

theorem inventory_parse_selection :
    let source := "# é\nxs.select do\n  x>3\nend\n"
    ∃ tree, parse (fun _ => some selection) source = .ok tree ∧
      (hotspotRows (detect tree) source).map (fun row => (row.line, row.text)) =
        [(2, "xs.select do"), (3, "x>3")] ∧
      (hotspotRows (detect tree) source).map (fun row => (row.id, row.depth)) = [(1, 0), (0, 1)] ∧
      ∀ row ∈ hotspotRows (detect tree) source, ∃ h, Describes (detect tree) source row h := by
  intro source
  have hplaced : ∀ r ∈ selection.toList, r.Placed source.toList := by decide +kernel
  have horderly : selection.Orderly := by decide +kernel
  obtain ⟨tree, hparse, hdepth, -, -, hrows, -⟩ :=
    @inventory_parse (fun _ => some selection) source selection rfl rfl hplaced horderly
  obtain rfl : tree = selection.lower source.toList := by
    rw [parse_of_clean rfl rfl] at hparse
    exact (Except.ok.inj hparse).symm
  refine ⟨_, hparse, ?_, ?_, hrows⟩
  · rw [hotspotRows, Template.preorderWithDepth_detect]
    decide +kernel
  · rw [hdepth, Template.preorderWithDepth_detect]
    decide +kernel

end Mender.Report
