import Mender.Pattern.Basic

/-!
Whether a pattern occurs in a text. From a start position every end position is computed; a
repetition needs no more rounds than the text has positions.
-/

namespace Mender.Pattern

def isWordAt (characters : CharClass) (c : Option Char) : Bool :=
  c.any fun c => characters.contains c.toNat

def WordEdge.holds (before after : Bool) : WordEdge → Bool
  | boundary => before != after
  | inside => before == after
  | start => !before && after
  | stop => before && !after
  | startHalf => !before
  | stopHalf => !after

def Assertion.holds (before after : Option Char) : Assertion → Bool
  | textStart => before.isNone
  | textEnd => after.isNone
  | lineStart false => before.isNone || before = some '\n'
  | lineStart true =>
    before.isNone || before = some '\n' || (before = some '\r' && after ≠ some '\n')
  | lineEnd false => after.isNone || after = some '\n'
  | lineEnd true =>
    after.isNone || after = some '\r' || (after = some '\n' && before ≠ some '\r')
  | word edge characters => edge.holds (isWordAt characters before) (isWordAt characters after)

def advanceAll (f : Nat → List Nat) (positions : List Nat) : List Nat :=
  (positions.flatMap f).eraseDups

def iterate (f : List Nat → List Nat) : Nat → List Nat → List Nat
  | 0, positions => positions
  | n + 1, positions => iterate f n (f positions)

def reach (f : List Nat → List Nat) : Nat → List Nat → List Nat
  | 0, positions => positions
  | n + 1, positions => reach f n (positions ++ f positions).eraseDups

/-- The positions where a match that starts at `i` can end. -/
def ends (text : Array Char) : Pattern → Nat → List Nat
  | .empty, i => [i]
  | .one characters, i =>
    match text[i]? with
    | some c => if characters.contains c.toNat then [i + 1] else []
    | none => []
  | .assert a, i =>
    if a.holds (if i = 0 then none else text[i - 1]?) text[i]? then [i] else []
  | .cat p q, i => advanceAll (ends text q) (ends text p i)
  | .alt p q, i => (ends text p i ++ ends text q i).eraseDups
  | .group p, i => ends text p i
  | .repeated p least most, i =>
    let step := advanceAll (ends text p)
    let rounds := text.size + 1
    let extra := match most with
      | some most => min (most - least) rounds
      | none => rounds
    reach step extra (iterate step (min least rounds) [i])

def occursIn (p : Pattern) (text : String) : Bool :=
  let cs := text.toList.toArray
  (List.range (cs.size + 1)).any fun i => !(ends cs p i).isEmpty

end Mender.Pattern
