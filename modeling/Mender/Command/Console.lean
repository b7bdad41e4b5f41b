import Mender.Suite.Command
import Mender.Report.Style

namespace Mender.Command

open Files

inductive Exit where
  | success
  | error
  | invalidInput
  | noFix
  deriving DecidableEq, Repr, Inhabited

def Exit.code : Exit → Nat
  | success => 0
  | error => 1
  | invalidInput => 2
  | noFix => 3

inductive Emission where
  | out (text : String)
  | err (text : String)
  | noted (note : Note)
  deriving Repr, Inhabited

structure Console where
  files : Disk
  emissions : Array Emission := #[]

abbrev Action := ExceptT Failure (StateM Console)

namespace Action

def emit (e : Emission) : Action Unit :=
  modify fun c => { c with emissions := c.emissions.push e }

def out (text : String) : Action Unit := emit (.out text)

def err (text : String) : Action Unit := emit (.err text)

def note (n : Note) : Action Unit := emit (.noted n)

def files : Action Disk := return (← get).files

def setFiles (files : Disk) : Action Unit := modify fun c => { c with files }

def told {α : Type} (r : Except Failure α × List Note) : Action α := do
  r.2.forM note
  liftExcept r.1
where
  liftExcept : Except Failure α → Action α
    | .ok a => return a
    | .error e => throw e

/-- Runs `body` and then releases the harness, whether or not the body fails. -/
def releasing {α : Type} (h : Suite.CommandHarness) (body : Action α) : Action α :=
  ExceptT.mk do
    let result ← body.run
    let c ← get
    let (files, notes) := h.release c.files
    set { c with files, emissions := c.emissions ++ (notes.map Emission.noted).toArray }
    return result

end Action

end Mender.Command
