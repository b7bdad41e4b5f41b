import Mender.Variant.Assignment

namespace Mender.Search

open Variant

inductive Verdict where
  | accepted
  /-- A test that failed on the program as it was still fails. -/
  | bugOracleFailed
  /-- The failing tests pass now, but another test does not. -/
  | regressionOracleFailed
  | loadFailed
  deriving DecidableEq, Repr, Inhabited

def Verdict.name : Verdict → String
  | accepted => "Accepted"
  | bugOracleFailed => "BugOracleFailed"
  | regressionOracleFailed => "RegressionOracleFailed"
  | loadFailed => "LoadFailed"

structure Fix where
  /-- Position in the order of judging, counted from one. -/
  index : Nat
  assignment : Assignment
  source : String
  deriving DecidableEq, Repr, Inhabited

inductive Outcome where
  | noFailures
  | accepted (fix : Fix)
  | exhausted
  deriving DecidableEq, Repr, Inhabited

structure Stats where
  judged : Nat := 0
  bugRejections : Nat := 0
  regressionRejections : Nat := 0
  loadFailures : Nat := 0
  /-- Milliseconds; a search leaves it to the clock of its caller. -/
  duration : Nat := 0
  deriving DecidableEq, Repr, Inhabited

def Stats.record (s : Stats) : Verdict → Stats
  | .accepted => { s with judged := s.judged + 1 }
  | .bugOracleFailed =>
    { s with judged := s.judged + 1, bugRejections := s.bugRejections + 1 }
  | .regressionOracleFailed =>
    { s with judged := s.judged + 1, regressionRejections := s.regressionRejections + 1 }
  | .loadFailed => { s with judged := s.judged + 1, loadFailures := s.loadFailures + 1 }

structure Report where
  outcome : Outcome
  failing : List String
  stats : Stats
  deriving DecidableEq, Repr, Inhabited

def Report.fix? (r : Report) : Option Fix :=
  match r.outcome with
  | .accepted fix => some fix
  | _ => none

end Mender.Search
