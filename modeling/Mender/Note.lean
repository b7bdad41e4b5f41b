import Mender.Failure
import Mender.Search.Verdict
import Mender.Text.Blank

namespace Mender

inductive Level where
  | debug
  | info
  | warn
  | error
  deriving DecidableEq, Repr, Inhabited

inductive Note where
  | detected (hotspots top : Nat)
  | nothingToRepair
  | failing (tests : List String)
  | judged (index : Nat) (verdict : Search.Verdict)
  | loadRefused (failure : Failure)
  | testBroke (test : String) (failure : Failure)
  | exhausted (tried : Nat)
  | testFailed (test : String) (exitCode : Int) (stdout stderr : String)
  | restoreFailed (failure : Failure)
  | configMissing (path : String)
  | discovered (tests : Nat) (file : String)
  deriving Repr, Inhabited

namespace Note

def level : Note → Level
  | detected .. | judged .. | testFailed .. | configMissing .. => .debug
  | nothingToRepair | failing .. | exhausted .. | discovered .. => .info
  | loadRefused .. | testBroke .. => .warn
  | restoreFailed .. => .error

def trimEnd (s : String) : String := .ofList (Text.trimEnd s.toList)

def text : Note → String
  | detected hotspots top => s!"Detected {hotspots} hotspots ({top} top-level)"
  | nothingToRepair => "All tests pass on the original program; nothing to repair"
  | failing tests => s!"{tests.length} failing test(s): " ++ ", ".intercalate tests
  | judged index verdict => s!"variant {index}: {verdict.name}"
  | loadRefused failure => "Could not load variant: " ++ failure.message
  | testBroke test failure => s!"Test {test} errored: {failure.message}"
  | exhausted tried => s!"No variant satisfied both oracles ({tried} tried)"
  | testFailed test exitCode stdout stderr =>
    s!"{test} failed (exit {exitCode})\n--- stdout ---\n{trimEnd stdout}" ++
      s!"\n--- stderr ---\n{trimEnd stderr}"
  | restoreFailed failure => failure.message
  | configMissing path => s!"{path} not found, using defaults"
  | discovered tests file => s!"Discovered {tests} tests in {file}"

end Note

end Mender
