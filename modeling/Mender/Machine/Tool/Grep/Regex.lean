namespace Mender.Machine.Tool.Grep

structure ByteSet where
  negated : Bool := false
  ranges : List (Char × Char)
  deriving DecidableEq, Repr, Inhabited

def ByteSet.single (c : Char) : ByteSet := { ranges := [(c, c)] }

def ByteSet.contains (fold : Bool) (s : ByteSet) (c : Char) : Bool :=
  let within (c : Char) : Bool := s.ranges.any fun (a, b) => a ≤ c && c ≤ b
  (within c || (fold && (within c.toLower || within c.toUpper))) != s.negated

def wordRanges : List (Char × Char) := [('0', '9'), ('A', 'Z'), ('_', '_'), ('a', 'z')]

def isWordByte (c : Char) : Bool := c.isAlphanum || c = '_'

inductive Anchor where
  | lineStart
  | lineEnd
  | wordStart
  | wordEnd
  | wordEdge
  | noEdge
  deriving DecidableEq, Repr, Inhabited

inductive Regex where
  | empty
  | byte (set : ByteSet)
  | anchor (a : Anchor)
  | reference (group : Nat)
  | group (n : Nat) (r : Regex)
  | sequence (a b : Regex)
  | either (a b : Regex)
  | repeated (least : Nat) (most : Option Nat) (r : Regex)
  deriving DecidableEq, Repr, Inhabited

namespace Regex

def literal (cs : List Char) : Regex :=
  cs.foldr (fun c r => sequence (byte (.single c)) r) empty

def hasReference : Regex → Bool
  | reference _ => true
  | group _ r | repeated _ _ r => r.hasReference
  | sequence a b | either a b => a.hasReference || b.hasReference
  | _ => false

end Regex

end Mender.Machine.Tool.Grep
