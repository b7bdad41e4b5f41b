import Mender.Note

namespace Mender.Search

open Variant

structure Reply (σ α : Type) where
  result : Except Failure α
  notes : List Note
  state : σ

structure Harness (σ : Type) where
  /-- The whole suite in the order of running. It is fixed: neither a load nor a run changes it. -/
  tests : List String
  load : String → σ → Reply σ Unit
  /-- Whether the test passes; a failure means that the run itself broke. -/
  run : String → σ → Reply σ Bool

inductive Event where
  | load (source : String)
  | run (test : String)
  | judged (index : Nat) (verdict : Verdict)
  | opened
  | pulled (assignment : Assignment)
  | noted (note : Note)
  deriving Repr, Inhabited

structure Session (σ : Type) where
  state : σ
  events : Array Event

abbrev Act (σ : Type) := StateM (Session σ)

namespace Act

variable {σ : Type}

def emit (e : Event) : Act σ Unit := modify fun s => { s with events := s.events.push e }

def reply {α : Type} (action : σ → Reply σ α) : Act σ (Except Failure α) := fun s =>
  let r := action s.state
  (r.result, ⟨r.state, s.events ++ (r.notes.map .noted).toArray⟩)

def load (h : Harness σ) (source : String) : Act σ (Except Failure Unit) := do
  emit (.load source)
  reply (h.load source)

/-- A run that breaks counts as a test that does not pass. -/
def passes (h : Harness σ) (test : String) : Act σ Bool := do
  emit (.run test)
  match ← reply (h.run test) with
  | .ok passed => return passed
  | .error e => emit (.noted (.testBroke test e)); return false

def allPass (h : Harness σ) : List String → Act σ Bool
  | [] => return true
  | test :: tests => do if ← passes h test then allPass h tests else return false

def failures (h : Harness σ) : List String → Act σ (List String)
  | [] => return []
  | test :: tests => do
    let passed ← passes h test
    let failing ← failures h tests
    return if passed then failing else test :: failing

end Act

end Mender.Search
