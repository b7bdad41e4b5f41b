import Mender.Machine.Tool.Grep.Match
import Mender.Machine.Tool.Grep.Parse
import Mender.Machine.Tool.Grep.Settings

namespace Mender.Machine.Tool.Grep

structure PatternLine where
  text : List Char
  origin : Option (String × Nat) := none
  deriving DecidableEq, Repr, Inhabited

structure Compiled where
  /-- What lines are found by. -/
  finding : Regex
  /-- What the matched parts of them are found by. -/
  locating : Regex
  deriving DecidableEq, Repr, Inhabited

structure Matcher where
  patterns : List Compiled
  fold : Bool
  words : Bool
  whole : Bool
  deriving Repr, Inhabited

namespace PatternLine

def compile (how : Notation) (p : PatternLine) : Except String Compiled :=
  let located (f : PatternFault) : String := match p.origin with
    | some (path, line) => s!"{path}:{line}: {f.message}"
    | none => f.message
  let read (extended : Bool) : Except String Compiled :=
    match parse ⟨extended, false⟩ p.text with
    | .error f => .error (located f)
    | .ok locating => match parse ⟨extended, true⟩ p.text with
      | .error .bareClass => .ok ⟨locating, locating⟩
      | .error f => .error (located f)
      | .ok finding => .ok ⟨finding, locating⟩
  match how with
  | .fixed => .ok ⟨.literal p.text, .literal p.text⟩
  | .basic => read false
  | _ => read true

def objection? (how : Notation) (p : PatternLine) : Option PatternFault :=
  match how, parse ⟨how ≠ .basic, true⟩ p.text with
  | .fixed, _ => none
  | _, .error f => some f
  | _, .ok _ => none

def warnings (how : Notation) (p : PatternLine) : List String :=
  if how = .extended then
    (lonelyOperators (p.text.length + 1) true p.text).map lonelyWarning
  else []

end PatternLine

namespace Matcher

def line (m : Matcher) (cs : List Char) : Line := ⟨cs.toArray, m.fold⟩

def finds (m : Matcher) (cs : List Char) : Bool :=
  let l := m.line cs
  m.patterns.any fun p =>
    if m.whole then l.matchesWhole p.finding
    else if m.words then l.matchesWords p.finding
    else l.matchesSomewhere p.finding

def wordMatch? (l : Line) (r : Regex) : Nat → Nat → Nat → Option (Nat × Nat)
  | 0, _, _ => none
  | fuel + 1, bound, i =>
    if l.size < i then none
    else match l.longest? r bound i with
      | none => wordMatch? l r fuel l.size (i + 1)
      | some j =>
        if l.isApart i j then some (i, j)
        else if i < j ∧ i + 1 < j then wordMatch? l r fuel (j - 1) i
        else wordMatch? l r fuel l.size (i + 1)

def locate? (m : Matcher) (cs : List Char) (i : Nat) : Option (Nat × Nat) :=
  let l := m.line cs
  let rounds := (l.size + 2) * (l.size + 2)
  let found := m.patterns.filterMap fun p =>
    if m.words ∧ !m.whole then wordMatch? l p.locating rounds l.size i
    else l.search? p.locating (l.size + 1 - i) i
  found.foldl (fun best (a, b) =>
    match best with
    | none => some (a, b)
    | some (c, d) => if a < c ∨ (a = c ∧ d < b) then some (a, b) else best) none

def parts (m : Matcher) (cs : List Char) : Nat → Nat → List (Nat × Nat)
  | 0, _ => []
  | fuel + 1, i =>
    if cs.length ≤ i then []
    else match m.locate? cs i with
      | none => []
      | some (a, b) =>
        if cs.length ≤ a then []
        else if a < b then (a, b) :: m.parts cs fuel b
        else m.parts cs fuel (a + 1)

end Matcher

end Mender.Machine.Tool.Grep
