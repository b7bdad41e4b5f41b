import Mender.Search.Candidates
import Mender.Search.Harness

namespace Mender.Search

open Hotspot Variant

structure Options where
  /-- How many variants are built before the first of them is judged. -/
  lookahead : Nat := 1
  deriving DecidableEq, Repr, Inhabited

variable {σ : Type}

def failingTests (h : Harness σ) (original : String) : Act σ (Except Failure (List String)) := do
  match ← Act.load h original with
  | .error e => return .error e
  | .ok () => return .ok (← Act.failures h h.tests)

def judge (h : Harness σ) (failing : List String) (source : String) : Act σ Verdict := do
  match ← Act.load h source with
  | .error e => Act.emit (.noted (.loadRefused e)); return .loadFailed
  | .ok () =>
    if ← Act.allPass h failing then
      if ← Act.allPass h h.tests then return .accepted else return .regressionOracleFailed
    else return .bugOracleFailed

/-- Judges built variants in order up to the first that is accepted. Their numbers follow `index`,
which is counted apart from the statistics. -/
def judgeBatch (h : Harness σ) (failing : List String) :
    Nat → Stats → List (Assignment × String) → Act σ (Nat × Stats × Option Fix)
  | index, stats, [] => return (index, stats, none)
  | index, stats, (assignment, source) :: rest => do
    let index := index + 1
    let verdict ← judge h failing source
    Act.emit (.noted (.judged index verdict))
    let stats := stats.record verdict
    Act.emit (.judged index verdict)
    if verdict = .accepted then return (index, stats, some ⟨index, assignment, source⟩)
    else judgeBatch h failing index stats rest

def buildAll (t : Template) : List Assignment → Except BuildError (List (Assignment × String))
  | [] => return []
  | a :: as => do
    let n ← build t a
    return (a, n.text) :: (← buildAll t as)

def judgeAll (t : Template) (h : Harness σ) (failing : List String) (window index : Nat)
    (stats : Stats) (supply : Candidates) : Act σ (Except Failure (Nat × Stats × Option Fix)) :=
  match _h : supply.take window with
  | ([], _) => return .ok (index, stats, none)
  | (a :: as, supply') => do
    (a :: as).forM fun a => Act.emit (.pulled a)
    match buildAll t (a :: as) with
    | .error e => return .error (.build e)
    | .ok variants =>
      match ← judgeBatch h failing index stats variants with
      | (index, stats, some fix) => return .ok (index, stats, some fix)
      | (index, stats, none) => judgeAll t h failing window index stats supply'
termination_by supply.left
decreasing_by exact Candidates.left_lt_of_take _h

/-- Searches among the given assignments, which are asked for only if some test fails. -/
def runAssignments (t : Template) (original : String) (h : Harness σ) (options : Options)
    (supply : Candidates) : Act σ (Except Failure Report) := do
  match ← failingTests h original with
  | .error e => return .error e
  | .ok [] =>
    Act.emit (.noted .nothingToRepair)
    return .ok ⟨.noFailures, [], {}⟩
  | .ok failing =>
    Act.emit (.noted (.failing failing))
    Act.emit .opened
    match ← judgeAll t h failing (max options.lookahead 1) 0 {} supply with
    | .error e => return .error e
    | .ok (_, stats, some fix) => return .ok ⟨.accepted fix, failing, stats⟩
    | .ok (index, stats, none) =>
      Act.emit (.noted (.exhausted index))
      return .ok ⟨.exhausted, failing, stats⟩

def run (t : Template) (original : String) (h : Harness σ) (options : Options) :
    Act σ (Except Failure Report) :=
  runAssignments t original h options (.counted (enumerate t))

end Mender.Search
