import Mender.Machine.Tool.Grep.Matcher

namespace Mender.Machine.Tool.Grep

open Files

structure Search where
  chunks : List Chunk := []
  failed : Bool := false
  found : Bool := false
  finished : Bool := false
  shown : Bool := false
  unread : Option Nat := none

abbrev Searching := StateM Search

structure Job where
  call : Call
  settings : Settings
  matcher : Matcher
  named : Bool

namespace Job

def quiet (j : Job) : Bool := j.settings.onlyStatus j.call.output

def wordless (j : Job) : Bool :=
  j.quiet || j.settings.naming.isSome || j.settings.counting

def say (text : String) : Searching Unit :=
  modify fun s => { s with chunks := .out text :: s.chunks }

def complain (j : Job) (text : String) : Searching Unit := do
  modify fun s => { s with failed := true }
  if !j.settings.silent then
    modify fun s => { s with chunks := j.call.told text :: s.chunks }

def paint (j : Job) (code text : String) : String :=
  if j.settings.color then s!"\x1b[{code}m\x1b[K{text}\x1b[m\x1b[K" else text

def separator (j : Job) (sign : String) : String := j.paint "36" sign

def nameText (j : Job) (name sign : String) : String :=
  j.paint "35" name ++ if j.settings.zeroNames then "\x00" else j.separator sign

def head (j : Job) (name sign : String) (number offset : Nat) (full : Bool) : String :=
  let numberText := if j.settings.numbered then
    j.paint "32" (toString number) ++ j.separator sign else ""
  let offsetText := if j.settings.offsets then
    j.paint "32" (toString offset) ++ j.separator sign else ""
  let text := (if j.named then j.nameText name sign else "") ++ numberText ++ offsetText
  if j.settings.tabs ∧ full ∧ text ≠ "" then text ++ "\t" else text

def lineEnd (j : Job) : String := if j.settings.zeroLines then "\x00" else "\n"

structure Numbered where
  text : List Char
  number : Nat
  offset : Nat

def painted (j : Job) (l : Numbered) : String :=
  let step (acc : Nat × String) (p : Nat × Nat) : Nat × String :=
    let (i, text) := acc
    let plain := String.ofList ((l.text.drop i).take (p.1 - i))
    let part := String.ofList ((l.text.drop p.1).take (p.2 - p.1))
    (p.2, text ++ plain ++ j.paint "01;31" part)
  let (i, text) := (j.matcher.parts l.text (l.text.length + 1) 0).foldl step (0, "")
  text ++ .ofList (l.text.drop i)

def lineText (j : Job) (name : String) (selected : Bool) (l : Numbered) : String :=
  let sign := if selected then ":" else "-"
  let matching := selected != j.settings.inverted
  if j.settings.only then
    if !matching then ""
    else
      let sign := if j.settings.inverted then "-" else ":"
      let part (p : Nat × Nat) : String :=
        j.head name sign l.number (l.offset + p.1) true ++
          j.paint "01;31" (.ofList ((l.text.drop p.1).take (p.2 - p.1))) ++ j.lineEnd
      String.join ((j.matcher.parts l.text (l.text.length + 1) 0).map part)
  else
    let text := if j.settings.color && matching then j.painted l else .ofList l.text
    j.head name sign l.number l.offset (l.text ≠ []) ++ text ++ j.lineEnd

def linesOf (ends : Char → Bool) (cs : List Char) : List Numbered :=
  let step (acc : List Numbered × List Char × Nat × Nat) (c : Char) :
      List Numbered × List Char × Nat × Nat :=
    let (lines, begun, number, offset) := acc
    if ends c then
      (⟨begun.reverse, number, offset⟩ :: lines, [], number + 1, offset + begun.length + 1)
    else (lines, c :: begun, number, offset)
  let (lines, begun, number, offset) := cs.foldl step ([], [], 1, 0)
  (if begun = [] then lines else ⟨begun.reverse, number, offset⟩ :: lines).reverse

structure Progress where
  passed : List Numbered := []
  pending : Nat := 0
  /-- Whether lines have been left out since the last one that was shown. -/
  gap : Bool := true
  count : Nat := 0
  deriving Inhabited

def present (j : Job) (name : String) (p : Progress) (l : Numbered) : Searching Unit := do
  let s := j.settings
  let around := s.linesBefore.isSome || s.linesAfter.isSome
  let before := p.passed.take (s.linesBefore.getD 0)
  let gap := p.gap || before.length < p.passed.length
  if around ∧ gap ∧ (← get).shown then
    if let some text := s.separator then say (j.separator text ++ "\n")
  say (String.join (before.reverse.map (j.lineText name false)))
  say (j.lineText name true l)

def searchLines (j : Job) (name : String) (quiet : Bool) :
    Progress → List Numbered → Searching (Nat × List Numbered)
  | p, [] => return (p.count, [])
  | p, l :: rest => do
    let s := j.settings
    let first := quiet && !s.counting
    let full := s.most.any (· ≤ p.count)
    if full ∧ p.pending = 0 then return (p.count, l :: rest)
    else if !full ∧ j.matcher.finds l.text != s.inverted then
      if !quiet then j.present name p l
      modify fun st => { st with shown := true }
      if first then return (p.count + 1, rest)
      searchLines j name quiet ⟨[], s.linesAfter.getD 0, false, p.count + 1⟩ rest
    else if p.pending ≠ 0 then
      if !quiet then say (j.lineText name false l)
      searchLines j name quiet { p with pending := p.pending - 1 } rest
    else searchLines j name quiet { p with passed := l :: p.passed } rest

def searchText (j : Job) (name text : String) : Searching (Nat × Nat) := do
  let s := j.settings
  let cs := text.toList
  let isBinary := !s.zeroLines && s.binaries ≠ .shown && '\x00' ∈ cs
  if isBinary ∧ s.binaries = .skipped then return (0, 0)
  let ends (c : Char) : Bool :=
    if s.zeroLines then c = '\x00' else c = '\n' || (isBinary && c = '\x00')
  let (count, left) ← j.searchLines name (j.wordless || isBinary) {} (linesOf ends cs)
  if isBinary ∧ !j.wordless ∧ count ≠ 0 then
    modify fun st => { st with chunks := j.call.told s!"{name}: binary file matches" :: st.chunks }
  let rest := match left with
    | l :: _ => cs.length - l.offset
    | [] => 0
  return (count, rest)

def conclude (j : Job) (name : String) (count : Nat) : Searching Unit := do
  let s := j.settings
  if count ≠ 0 then modify fun st => { st with found := true, finished := st.finished || j.quiet }
  if !j.quiet then
    if s.counting ∧ s.naming.isNone then
      say ((if j.named then j.nameText name ":" else "") ++ s!"{count}\n")
    let listed : Bool := match s.naming with
      | some .matching => count ≠ 0
      | some .others => count = 0
      | none => false
    if listed then
      say (j.paint "35" name ++ if s.zeroNames then "\x00" else "\n")

/-- Whether a file is the one that is written to, without an end to what would be found there. -/
def isOutput (j : Job) (p : Place) : Bool :=
  !j.wordless && j.settings.most.all (1 < ·) && j.call.output.place = some p

/-- Searches a file, unless rules leave it out; it may be found by its path, or be an operand. -/
def searchFile (j : Job) (operand : Bool) (path : String) : Searching Unit := do
  match readFile j.call.files path with
  | .error .isDirectory =>
    if j.settings.directories = .read ∧ !leavesOut j.settings.directoryRules operand path then
      j.complain s!"{path}: Is a directory"
      j.conclude path 0
  | .error e => j.complain s!"{path}: {e.reason}"
  | .ok text =>
    let name := if operand then path else ((path.splitOn "/").getLast?).getD path
    if leavesOut j.settings.fileRules operand name then return ()
    let same := match j.call.files.lookup (pathOf path) with
      | .ok (p, .file _) => j.isOutput p
      | _ => false
    if same then j.complain s!"{path}: input file is also the output"
    else
      let (count, _) ← j.searchText path text
      j.conclude path count

def searchInput (j : Job) (name : String) : Searching Unit := do
  match j.call.input.text with
  | .error .isDirectory =>
    if j.settings.directories = .read then
      j.complain s!"{name}: Is a directory"
      j.conclude name 0
  | .error e => j.complain s!"{name}: {e.reason}"
  | .ok text =>
    let text := if (← get).unread.isSome then "" else text
    let (count, left) ← j.searchText name text
    let stopped := j.call.input.source.isSome && j.settings.most.any (· ≤ count)
    modify fun s => { s with unread := some (if stopped then left else 0) }
    j.conclude name count

def filesBelow (j : Job) (path : String) (p : Place) : List String :=
  let base := if path = "" || path.endsWith "/" then path else path ++ "/"
  let kept (name : String) : Bool := !leavesOut j.settings.directoryRules false name
  let below := j.call.files.entries.filterMap fun
    | (q, .file _) =>
      let names := (q.drop p.length).map Text.encode
      if p.isPrefixOf q ∧ names ≠ [] ∧ names.dropLast.all kept then some names else none
    | _ => none
  (below.map fun names => base ++ "/".intercalate names).mergeSort (· ≤ ·)

def searchBelow (j : Job) (path : String) (p : Place) : Searching Unit := do
  let j := { j with named := j.settings.named.getD true }
  for found in j.filesBelow path p do
    if !(← get).finished then j.searchFile false found

def searchOperand (j : Job) (path : String) : Searching Unit := do
  if (← get).finished then return ()
  if path = "-" then j.searchInput j.settings.label
  else if path ∈ inputPaths then j.searchInput path
  else if j.settings.directories = .recurse then
    match j.call.files.lookup (pathOf path) with
    | .ok (p, .directory) =>
      if !leavesOut j.settings.directoryRules true path then j.searchBelow path p
    | _ => j.searchFile true path
  else j.searchFile true path

end Job

def usage : String :=
  "Usage: grep [OPTION]... PATTERNS [FILE]...\nTry 'grep --help' for more information.\n"

def patternLines (text : String) : List (List Char) :=
  match text.toList.splitOn '\n' with
  | [] => []
  | lines => if lines.getLast? = some [] then lines.dropLast else lines

def PatternSource.lines (c : Call) : PatternSource → Except String (List PatternLine)
  | .text s => .ok ((s.toList.splitOn '\n').map fun cs => { text := cs })
  | .file path =>
    let content := if path = "-" then c.input.text else c.read path
    match content with
    | .error e => .error s!"{path}: {e.reason}"
    | .ok content =>
      let shown := if path = "-" then "(standard input)" else path
      .ok ((patternLines content).mapIdx fun i cs => { text := cs, origin := some (shown, i + 1) })

def distinct (ps : List PatternLine) : List PatternLine :=
  ps.foldl (fun acc p => if acc.any (·.text = p.text) then acc else acc ++ [p]) []

def Settings.findsNothing (s : Settings) (patterns : List PatternLine) : Bool :=
  let hopeless := match patterns with
    | [] => !s.inverted
    | [p] => p.text = [] && s.inverted && !s.words && !s.whole
    | _ => false
  (s.most = some 0 || hopeless) && s.naming ≠ some .others

def search (c : Call) (s : Settings) (patterns : List PatternLine) (operands : List String) :
    Answer :=
  let how := s.how.getD .basic
  let trouble (complaints : List String) : Answer := c.answer 2 (complaints.map c.told)
  let compiled := patterns.map (PatternLine.compile how)
  let faults := compiled.filterMap fun
    | .error text => some text
    | .ok _ => none
  let warnings := (patterns.flatMap (PatternLine.warnings how)).map ("warning: " ++ ·)
  if faults ≠ [] then trouble faults
  else match patterns.findSome? (PatternLine.objection? how) with
    | some f => trouble (warnings ++ [f.message])
    | none =>
      let matcher : Matcher := ⟨compiled.filterMap Except.toOption, s.fold, s.words, s.whole⟩
      let job : Job := ⟨c, s, matcher, s.named.getD (1 < operands.length)⟩
      let body : Searching Unit :=
        if operands ≠ [] then operands.forM job.searchOperand
        else if s.directories = .recurse then job.searchBelow "" c.files.here
        else job.searchOperand "-"
      let (_, result) := body.run {}
      let status := if result.finished then 0 else if result.failed then 2
        else if result.found then 0 else 1
      let a := c.answer status (warnings.map c.told ++ result.chunks.reverse)
      { a with unread := result.unread.or a.unread }

end Grep

open Grep in
def grep : Tool := fun c =>
  let c := { c with name := "grep" }
  let sorted := Grep.options.read c.arguments
  let (s, fault) := Settings.withOptions {} sorted.given
  let answer : Answer := match fault, sorted.operands with
    | some (.badDirectories text), _ =>
      c.answer 1 [c.told (SettingFault.badDirectories text).message,
        .err "Valid arguments are:\n  - 'read'\n  - 'recurse'\n  - 'skip'\n", .err usage]
    | some f, _ => c.answer 2 [c.told f.message]
    | none, .error f => c.answer 2 [c.told f.message, .err usage]
    | none, .ok operands =>
      let (sources, operands) := match s.patterns, operands with
        | [], p :: rest => ([PatternSource.text p], rest)
        | sources, operands => (sources, operands)
      if sources = [] then c.answer 2 [.err usage]
      else match sources.mapM (PatternSource.lines c) with
        | .error text => c.answer 2 [c.told text]
        | .ok lines =>
          let used := sources.contains (.file "-")
          let patterns := distinct lines.flatten
          let a := if s.findsNothing patterns then c.answer 1 []
            else search c s patterns operands
          if used then { a with unread := some 0 } else a
  let warning := c.told "warning: --unix-byte-offsets (-u) is obsolete"
  { answer with chunks := List.replicate s.obsolete warning ++ answer.chunks }

end Mender.Machine.Tool
