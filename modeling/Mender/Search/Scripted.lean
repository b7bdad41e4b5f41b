import Mender.Search.Harness

namespace Mender.Search

inductive Check where
  | const (value : Bool)
  | contains (text : String)
  | equals (text : String)
  | starts (text : String)
  | ends (text : String)
  | not (check : Check)
  | and (first second : Check)
  | or (first second : Check)
  | runsFrom (count : Nat)
  | loadsFrom (count : Nat)
  | broken (failure : Failure)
  deriving Repr, Inhabited

inductive Call where
  | refused (source : String)
  | load (source : String)
  | run (test : String) (passed : Option Bool)
  deriving DecidableEq, Repr, Inhabited

structure Scripted where
  loads : Nat := 0
  runs : Nat := 0
  text : String := ""
  calls : Array Call := #[]
  deriving Repr, Inhabited

namespace Check

def hasInfix (pattern : List Char) : List Char → Bool
  | [] => pattern.isEmpty
  | c :: cs => pattern.isPrefixOf (c :: cs) || hasInfix pattern cs

def eval (s : Scripted) (source : String) : Check → Except Failure Bool
  | const value => .ok value
  | contains text => .ok (hasInfix text.toList source.toList)
  | equals text => .ok (source = text)
  | starts text => .ok (text.toList.isPrefixOf source.toList)
  | ends text => .ok (text.toList.isSuffixOf source.toList)
  | not check => (check.eval s source).map (!·)
  | and first second => do if ← first.eval s source then second.eval s source else return false
  | or first second => do if ← first.eval s source then return true else second.eval s source
  | runsFrom count => .ok (count ≤ s.runs)
  | loadsFrom count => .ok (count ≤ s.loads)
  | broken failure => .error failure

end Check

namespace Scripted

def load (refuses : Check) (source : String) (s : Scripted) : Reply Scripted Unit :=
  let s := { s with loads := s.loads + 1 }
  match refuses.eval s source with
  | .error e => ⟨.error e, [], s⟩
  | .ok true =>
    ⟨.error (.custom "refused to load variant"), [],
      { s with calls := s.calls.push (.refused source) }⟩
  | .ok false => ⟨.ok (), [], { s with text := source, calls := s.calls.push (.load source) }⟩

def run (tests : List (String × Check)) (name : String) (s : Scripted) : Reply Scripted Bool :=
  let s := { s with runs := s.runs + 1 }
  let check := ((tests.find? (·.1 = name)).map (·.2)).getD (.const false)
  match check.eval s s.text with
  | .error e => ⟨.error e, [], { s with calls := s.calls.push (.run name none) }⟩
  | .ok passed => ⟨.ok passed, [], { s with calls := s.calls.push (.run name (some passed)) }⟩

def harness (tests : List (String × Check)) (refuses : Check) : Harness Scripted :=
  ⟨tests.map (·.1), load refuses, run tests⟩

end Scripted

end Mender.Search
