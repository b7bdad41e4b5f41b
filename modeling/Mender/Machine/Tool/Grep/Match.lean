import Mender.Machine.Tool.Grep.Regex

/-!
Matching lines. A set of places in a line is a number: its bit `i` tells whether the place behind
`i` bytes belongs to it. A pattern takes the places where it may begin to those where it may end.
-/

namespace Mender.Machine.Tool.Grep

abbrev Places := Nat

structure Line where
  bytes : Array Char
  fold : Bool

namespace Line

def size (l : Line) : Nat := l.bytes.size

def isWord (l : Line) (i : Nat) : Bool := (l.bytes[i]?).any isWordByte

def places (l : Line) (test : Nat → Bool) : Places :=
  (List.range (l.size + 1)).foldr (fun i s => 2 * s + if test i then 1 else 0) 0

def holds (l : Line) (a : Anchor) (i : Nat) : Bool :=
  let before := i ≠ 0 && l.isWord (i - 1)
  let after := l.isWord i
  match a with
  | .lineStart => i = 0
  | .lineEnd => i = l.size
  | .wordStart => !before && after
  | .wordEnd => before && !after
  | .wordEdge => before != after
  | .noEdge => before == after

def closure (step : Places → Places) : Nat → Places → Places
  | 0, s => s
  | fuel + 1, s =>
    let t := s ||| step s
    if t = s then s else closure step fuel t

def upTo (step : Places → Places) : Nat → Places → Places
  | 0, s => s
  | n + 1, s => if s = 0 then 0 else s ||| upTo step n (step s)

def times (step : Places → Places) : Nat → Places → Places
  | 0, s => s
  | n + 1, s => if s = 0 then 0 else times step n (step s)

def ends (l : Line) : Regex → Places → Places
  | .empty, s => s
  | .byte set, s => 2 * (s &&& l.places fun i => (l.bytes[i]?).any (set.contains l.fold))
  | .anchor a, s => s &&& l.places (l.holds a)
  | .reference _, _ => 0
  | .group _ r, s => l.ends r s
  | .sequence a b, s =>
    let t := l.ends a s
    if t = 0 then 0 else l.ends b t
  | .either a b, s => l.ends a s ||| l.ends b s
  | .repeated least most r, s =>
    let t := times (l.ends r) least s
    match most with
    | none => closure (l.ends r) (l.size + 1) t
    | some most => upTo (l.ends r) (most - least) t

/-- A place and the texts that groups have matched, last one first. -/
abbrev Trace := Nat × List (Nat × List Char)

def sameText (fold : Bool) (a b : List Char) : Bool :=
  if fold then a.map Char.toLower = b.map Char.toLower else a = b

def traces (l : Line) : Regex → Trace → List Trace
  | .reference n, (i, groups) =>
    match groups.lookup n with
    | none => []
    | some text =>
      let here := (l.bytes.extract i (i + text.length)).toList
      if sameText l.fold text here then [(i + text.length, groups)] else []
  | .group n r, (i, groups) =>
    (l.traces r (i, groups)).map fun (j, groups) =>
      (j, (n, (l.bytes.extract i j).toList) :: groups.filter (·.1 ≠ n))
  | .sequence a b, t => (l.traces a t).flatMap (l.traces b)
  | .either a b, t => l.traces a t ++ l.traces b t
  | .repeated least most r, t =>
    let first := (List.range least).foldl (fun ts _ => (ts.flatMap (l.traces r)).eraseDups) [t]
    let more : Nat := match most with
      | some most => min (most - least) (l.size + 1)
      | none => l.size + 1
    let step (acc : List Trace × List Trace) : List Trace × List Trace :=
      let new := ((acc.2.flatMap (l.traces r)).eraseDups).filter (!acc.1.contains ·)
      (acc.1 ++ new, new)
    ((List.range more).foldl (fun acc _ => step acc) (first, first)).1
  | .empty, t => [t]
  | .byte set, (i, groups) =>
    if (l.bytes[i]?).any (set.contains l.fold) then [(i + 1, groups)] else []
  | .anchor a, (i, groups) => if l.holds a i then [(i, groups)] else []

def endsFrom (l : Line) (r : Regex) (i : Nat) : Places :=
  if r.hasReference then (l.traces r (i, [])).foldl (fun s t => s ||| 1 <<< t.1) 0
  else l.ends r (1 <<< i)

def lastPlace? (s : Places) : Nat → Option Nat
  | 0 => if s.testBit 0 then some 0 else none
  | n + 1 => if s.testBit (n + 1) then some (n + 1) else lastPlace? s n

def longest? (l : Line) (r : Regex) (bound i : Nat) : Option Nat :=
  lastPlace? (l.endsFrom r i) bound

def search? (l : Line) (r : Regex) : Nat → Nat → Option (Nat × Nat)
  | 0, _ => none
  | fuel + 1, i =>
    match l.longest? r l.size i with
    | some j => some (i, j)
    | none => l.search? r fuel (i + 1)

def matchesSomewhere (l : Line) (r : Regex) : Bool :=
  if r.hasReference then (l.search? r (l.size + 1) 0).isSome
  else l.ends r (l.places fun _ => true) ≠ 0

def matchesWhole (l : Line) (r : Regex) : Bool := (l.endsFrom r 0).testBit l.size

def isApart (l : Line) (i j : Nat) : Bool := !(i ≠ 0 && l.isWord (i - 1)) && !l.isWord j

def matchesWords (l : Line) (r : Regex) : Bool :=
  let stops := l.places fun j => !l.isWord j
  (List.range (l.size + 1)).any fun i =>
    !(i ≠ 0 && l.isWord (i - 1)) && l.endsFrom r i &&& stops ≠ 0

end Line

end Mender.Machine.Tool.Grep
