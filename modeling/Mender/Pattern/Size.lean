import Mender.Pattern.Basic
import Mender.Pattern.Encoding

/-!
How large the automata for a pattern are: one that reads forwards and keeps the places of groups,
and one that reads backwards. A pattern for which one of them is too large is refused.
-/

namespace Mender.Pattern

/-- A pattern as automata are made of it, with plain text joined and what cannot matter left out.
Parts that follow each other, and branches, are chained to the right. -/
inductive Shape where
  | empty
  | literal (bytes : List Nat)
  | characters (ranges : List (Nat × Nat))
  | look
  | repeated (p : Shape) (least : Nat) (most : Option Nat)
  | capture (p : Shape)
  | cat (first rest : Shape)
  | alt (first rest : Shape)
  deriving DecidableEq, Repr, Inhabited

namespace Shape

def parts : Shape → List Shape
  | empty => []
  | cat p q => p :: q.parts
  | p => [p]

def ofParts : List Shape → Shape
  | [] => empty
  | [p] => p
  | p :: ps => cat p (ofParts ps)

def branches : Shape → List Shape
  | alt p q => p :: q.branches
  | p => [p]

def ofBranches : List Shape → Shape
  | [] => empty
  | [p] => p
  | p :: ps => alt p (ofBranches ps)

def joinLiterals : List Shape → List Shape
  | [] => []
  | literal a :: ps =>
    match joinLiterals ps with
    | literal b :: qs => literal (a ++ b) :: qs
    | qs => literal a :: qs
  | p :: ps => p :: joinLiterals ps

def concat (ps : List Shape) : Shape := ofParts (joinLiterals (ps.flatMap parts))

def ofRanges (r : Ranges) : Shape :=
  match r.toList with
  | [(a, b)] => if a = b then literal (encoded a) else characters [(a, b)]
  | rs => characters rs

def characters? : Shape → Option (List (Nat × Nat))
  | characters rs => some rs
  | literal bytes =>
    let n := match bytes with
      | [a] => a
      | [a, b] => (a - 0xc0) * 64 + (b - 0x80)
      | [a, b, c] => (a - 0xe0) * 4096 + (b - 0x80) * 64 + (c - 0x80)
      | [a, b, c, d] => (a - 0xf0) * 262144 + (b - 0x80) * 4096 + (c - 0x80) * 64 + (d - 0x80)
      | _ => 0
    if encoded n = bytes then some [(n, n)] else none
  | _ => none

def captures : Shape → Bool
  | repeated p _ _ => p.captures
  | capture _ => true
  | cat p q | alt p q => p.captures || q.captures
  | _ => false

def commonParts : List Shape → List Shape → Nat
  | p :: ps, q :: qs => if p = q ∧ !p.captures then commonParts ps qs + 1 else 0
  | _, _ => 0

def choice : Nat → List Shape → Shape
  | 0, ps => ofBranches ps
  | fuel + 1, ps =>
    let ps := ps.flatMap branches
    match ps, ps.mapM characters? with
    | [], _ => characters []
    | [p], _ => p
    | _, some rs => ofRanges (.ofList rs.flatten)
    | p :: rest, none =>
      let lists := (p :: rest).map parts
      let common := (lists.tail.map (commonParts p.parts)).foldl min p.parts.length
      if common = 0 ∨ lists.any (·.length < 2) then ofBranches (p :: rest)
      else concat (p.parts.take common ++ [choice fuel (lists.map fun l => concat (l.drop common))])

def leastSize : Shape → Option Nat
  | empty | look => some 0
  | literal bytes => some bytes.length
  | characters [] => none
  | characters ((a, _) :: _) => some (encoded a).length
  | repeated p least _ => p.leastSize.map (· * least)
  | capture p => p.leastSize
  | cat p q => do return (← p.leastSize) + (← q.leastSize)
  | alt p q => do return min (← p.leastSize) (← q.leastSize)

def isHollow : Shape → Bool
  | empty | look => true
  | literal _ | characters _ => false
  | repeated p _ most => p.isHollow || most = some 0
  | capture p => p.isHollow
  | cat p q | alt p q => p.isHollow && q.isHollow

def repetition (p : Shape) (least : Nat) (most : Option Nat) : Shape :=
  let (least, most) := if p.isHollow then (min least 1, some ((most.map (min 1)).getD 1))
    else (least, most)
  if least = 0 ∧ most = some 0 then empty
  else if least = 1 ∧ most = some 1 then p
  else repeated p least most

end Shape

def shapes : Pattern → List Shape
  | .empty => [.empty]
  | .one a => [.ofRanges a.ranges]
  | .assert _ => [.look]
  | .cat p q => [.concat [.choice 1000 (shapes p), .choice 1000 (shapes q)]]
  | .alt p q => .choice 1000 (shapes p) :: shapes q
  | .repeated p least most => [.repetition (.choice 1000 (shapes p)) least most]
  | .group p => [.capture (.choice 1000 (shapes p))]

def shapeOf (p : Pattern) : Shape := .choice 1000 (shapes p)

def stateSize : Nat := 32

def branchSize : Nat := 4

def stepSize : Nat := 8

/-- The size of a piece of an automaton, and whether it ends in a state that takes more for what
follows. -/
structure Extent where
  size : Nat
  branching : Bool := false

def Extent.link (e : Extent) : Nat := if e.branching then branchSize else 0

/-- The states that read the ends of sequences, each as its steps with the state they lead to. -/
abbrev SharedStates := List (List (Nat × Nat × Nat))

def sharedState (steps : List (Nat × Nat × Nat)) : StateM SharedStates Nat := do
  let known ← get
  match known.findIdx? (· = steps) with
  | some i => return known.length - i
  | none =>
    set (steps :: known)
    return known.length + 1

def sequenceState : Nat → List ByteSequence → StateM SharedStates Nat
  | 0, _ => return 0
  | fuel + 1, sequences => do
    if sequences.all (· = []) then return 0
    let groups := sequences.splitBy fun s t => s.head? = t.head?
    let steps ← groups.mapM fun group => do
      let (a, b) := ((group.head?.bind List.head?)).getD (0, 0)
      return (a, b, ← sequenceState fuel (group.map List.tail))
    sharedState steps

def forwardStates (sequences : List ByteSequence) : SharedStates :=
  ((sequenceState 5 sequences).run []).2

def commonFront : ByteSequence → ByteSequence → Nat
  | r :: rs, s :: ss => if r = s then commonFront rs ss + 1 else 0
  | _, _ => 0

def prefixStates : ByteSequence → List ByteSequence → Nat
  | _, [] => 0
  | before, s :: rest => s.length - commonFront before s + prefixStates s rest

def characterSize (backwards : Bool) (ranges : List (Nat × Nat)) : Nat :=
  if ranges = [] then stateSize
  else if ranges.all (·.2 ≤ 0x7f) then 2 * stateSize + stepSize * ranges.length
  else
    let sequences := sequencesOf ranges.toArray
    if backwards then
      stateSize * (2 + prefixStates [] sequences) + branchSize * sequences.length
    else
      stateSize + ((forwardStates sequences).map fun steps =>
        stateSize + stepSize * steps.length).foldl (· + ·) 0

def textChunks (texts : List (List Nat)) : List (List (List Nat)) := texts.splitOnP List.isEmpty

def textsSize : Nat → List (List Nat) → Nat
  | 0, _ => 0
  | fuel + 1, texts =>
    let chunks := textChunks texts
    let firsts (chunk : List (List Nat)) : List Nat := (chunk.filterMap List.head?).eraseDups
    let own := chunks.map fun chunk =>
      match firsts chunk with
      | [] => 0
      | [_] => branchSize + stateSize
      | bytes => branchSize + stateSize + stepSize * bytes.length
    let below := chunks.flatMap fun chunk => (firsts chunk).map fun b =>
      let tails := (chunk.filter (·.head? = some b)).map List.tail
      if tails.all List.isEmpty then 0 else textsSize fuel tails
    stateSize + branchSize * (chunks.length - 1) + own.foldl (· + ·) 0 + below.foldl (· + ·) 0

namespace Extent

def followedBy (e f : Extent) : Extent := ⟨e.size + e.link + f.size, f.branching⟩

def copies (n : Nat) (e : Extent) : Extent :=
  if n = 0 then ⟨stateSize, false⟩ else ⟨n * e.size + (n - 1) * e.link, e.branching⟩

def repeated (e : Extent) (mayBeEmpty : Bool) (least : Nat) (most : Option Nat) : Extent :=
  match least, most with
  | 0, some 1 => ⟨e.size + e.link + 2 * stateSize + 2 * branchSize, false⟩
  | 0, none =>
    if mayBeEmpty then ⟨e.size + e.link + 3 * stateSize + 4 * branchSize, false⟩
    else ⟨e.size + e.link + stateSize + branchSize, true⟩
  | n, none => ⟨n * e.size + n * e.link + stateSize + branchSize, true⟩
  | n, some m =>
    if n = m then e.copies n
    else
      let front := e.copies n
      let more := (m - n) * (e.size + e.link + stateSize + 2 * branchSize)
      ⟨front.size + front.link + stateSize + more, false⟩

end Extent

def texts? (ps : List Shape) : Option (List (List Nat)) :=
  ps.mapM fun
    | .literal bytes => some bytes
    | _ => none

def branchesSize (branches : List Extent) : Nat :=
  (branches.map fun e => branchSize + e.size + e.link).foldl (· + ·) 0

def chosen (backwards : Bool) (s : Shape) (branches : List Extent) : Extent :=
  match s, branches with
  | .alt .., _ =>
    match texts? s.branches with
    | some texts =>
      let texts := if backwards then texts.map List.reverse else texts
      ⟨stateSize + textsSize ((texts.map List.length).foldl max 0 + 1) texts, false⟩
    | none => ⟨2 * stateSize + branchesSize branches, false⟩
  | _, e :: _ => e
  | _, [] => ⟨stateSize, false⟩

def extents (backwards : Bool) : Shape → List Extent
  | .empty | .look => [⟨stateSize, false⟩]
  | .literal bytes => [⟨stateSize * bytes.length, false⟩]
  | .characters ranges => [⟨characterSize backwards ranges, false⟩]
  | .repeated p least most =>
    [(chosen backwards p (extents backwards p)).repeated (p.leastSize.all (· = 0)) least most]
  | .capture p =>
    let e := chosen backwards p (extents backwards p)
    [if backwards then e else ⟨e.size + e.link + 2 * stateSize, false⟩]
  | .cat p q =>
    let e := chosen backwards p (extents backwards p)
    let f := chosen backwards q (extents backwards q)
    [if backwards then f.followedBy e else e.followedBy f]
  | .alt p q => chosen backwards p (extents backwards p) :: extents backwards q

def automatonSize (backwards : Bool) (s : Shape) : Nat :=
  let e := chosen backwards s (extents backwards s)
  let whole := if backwards then 0 else 2 * stateSize
  let search := 3 * stateSize + stepSize + 2 * branchSize
  search + whole + e.size + e.link + stateSize

def sizeLimit : Nat := 10485760

def isSmall (p : Pattern) : Bool :=
  let s := shapeOf p
  automatonSize false s ≤ sizeLimit && automatonSize true s ≤ sizeLimit

end Mender.Pattern
