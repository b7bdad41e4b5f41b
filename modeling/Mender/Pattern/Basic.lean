import Mender.Pattern.Category
import Mender.Pattern.Fold

namespace Mender.Pattern

inductive CharClass where
  | none
  | range (first last : Nat)
  | table (ranges : Ranges)
  | union (a b : CharClass)
  | inter (a b : CharClass)
  | diff (a b : CharClass)
  | symDiff (a b : CharClass)
  | compl (a : CharClass)
  | folded (a : CharClass)
  /-- The same where only letters among the first 128 code points fold. -/
  | asciiFolded (a : CharClass)
  deriving Repr, Inhabited

namespace CharClass

def point (c : Char) : CharClass := range c.toNat c.toNat

def all : CharClass := compl none

def contains (n : Nat) : CharClass → Bool
  | none => false
  | range first last => first ≤ n && n ≤ last
  | table ranges => ranges.contains n
  | union a b => a.contains n || b.contains n
  | inter a b => a.contains n && b.contains n
  | diff a b => a.contains n && !b.contains n
  | symDiff a b => a.contains n != b.contains n
  | compl a => !a.contains n
  | folded a => (foldOrbit n).any (contains · a)
  | asciiFolded a => (asciiOrbit n).any (contains · a)

def ranges : CharClass → Ranges
  | none => #[]
  | range first last => .ofList (if first ≤ last then [(first, last)] else [])
  | table ranges => ranges
  | union a b => a.ranges.union b.ranges
  | inter a b => a.ranges.inter b.ranges
  | diff a b => a.ranges.diff b.ranges
  | symDiff a b => a.ranges.symDiff b.ranges
  | compl a => a.ranges.compl
  | folded a => a.ranges.folded
  | asciiFolded a => a.ranges.asciiFolded

def ofRanges : List (Char × Char) → CharClass
  | [] => none
  | (a, b) :: rs => union (range a.toNat b.toNat) (ofRanges rs)

def digit : CharClass := table decimalNumbers

def blank : CharClass := table whiteSpace

def word : CharClass := table wordCharacters

def asciiDigit : CharClass := ofRanges [('0', '9')]

def asciiWord : CharClass := ofRanges [('0', '9'), ('A', 'Z'), ('a', 'z'), ('_', '_')]

def asciiBlank : CharClass := ofRanges [('\t', '\r'), (' ', ' ')]

end CharClass

inductive WordEdge where
  | boundary
  | inside
  | start
  | stop
  | startHalf
  | stopHalf
  deriving DecidableEq, Repr, Inhabited

inductive Assertion where
  | textStart
  | textEnd
  /-- With `crlf`, a line also ends before a carriage return, and never inside the pair. -/
  | lineStart (crlf : Bool)
  | lineEnd (crlf : Bool)
  | word (edge : WordEdge) (characters : CharClass)
  deriving Repr, Inhabited

end Mender.Pattern

namespace Mender

inductive Pattern where
  | empty
  | one (characters : Pattern.CharClass)
  | assert (assertion : Pattern.Assertion)
  | cat (p q : Pattern)
  | alt (p q : Pattern)
  | repeated (p : Pattern) (least : Nat) (most : Option Nat)
  | group (p : Pattern)
  deriving Repr, Inhabited

end Mender
