import Mender.Failure
import Mender.Host
import Mender.Note
import Mender.Suite.Discovery

namespace Mender

open Files

structure Config where
  source : Option String := none
  command : Option String := none
  /-- Test names; if there are any, none are looked for. -/
  names : List String := []
  testFile : Option String := none
  pattern : String := "^test_"
  lookahead : Nat := 1
  deriving DecidableEq, Repr, Inhabited

namespace Config

open Toml (Value Fields)

/-- The fields of a section: a table, or the values of its settings in their order. -/
def sectionFields (settings : List String) : Value → Option Fields
  | .table _ fields => some fields
  | .array items => some (settings.zip items)
  | .tables items => some (settings.zip (items.map (.table .header)))
  | .moment => some []
  | _ => none

def sectionOf (document : Fields) (name : String) (settings : List String) : Option Fields :=
  match document.get? name with
  | some v => sectionFields settings v
  | none => some []

def setting {α : Type} (fields : Fields) (name : String) (decode : Value → Option α) :
    Option (Option α) :=
  match fields.get? name with
  | some v => (decode v).map some
  | none => some none

def text? : Value → Option String
  | .text s => some s
  | _ => none

def texts? : Value → Option (List String)
  | .array items => items.mapM text?
  | _ => none

def count? : Value → Option Nat
  | .integer n => if 0 ≤ n then some n.toNat else none
  | _ => none

/-- The settings that a document gives; what it does not know it passes over. -/
def decode? (document : Fields) : Option Config := do
  let program ← sectionOf document "program" ["source"]
  let tests ← sectionOf document "tests" ["command", "names", "file", "pattern"]
  let search ← sectionOf document "search" ["lookahead"]
  let default : Config := {}
  let source ← setting program "source" text?
  let command ← setting tests "command" text?
  let names ← setting tests "names" texts?
  let testFile ← setting tests "file" text?
  let pattern ← setting tests "pattern" text?
  let lookahead ← setting search "lookahead" count?
  return {
    source, command, testFile
    names := names.getD default.names
    pattern := pattern.getD default.pattern
    lookahead := lookahead.getD default.lookahead }

def parse (host : Host) (document : String) : Except Failure Config :=
  match (host.document document).bind decode? with
  | some c => .ok c
  | none => .error .document

def load (host : Host) (files : Disk) (path : String) : Except Failure Config × List Note :=
  if files.exists? path then
    match files.readText path with
    | .error e => (.error (.within (.reading path) (.io e)), [])
    | .ok document => ((parse host document).mapError (.within (.decoding path)), [])
  else (.ok {}, [.configMissing path])

def validate (c : Config) (host : Host) : Except Failure Unit :=
  if c.source.isNone then .error (.config .noProgram)
  else if c.command.isNone then .error (.config .noCommand)
  else if c.names.isEmpty ∧ c.testFile.isNone then .error (.config .noTests)
  else match host.pattern c.pattern with
    | some _ => .ok ()
    | none => .error (.within (.pattern c.pattern) .pattern)

def override (c : Config) (o : Overrides) : Config :=
  { source := o.source.or c.source
    command := o.command.or c.command
    names := if o.tests.isEmpty then c.names else o.tests
    testFile := o.testFile.or c.testFile
    pattern := c.pattern
    lookahead := o.lookahead.getD c.lookahead }

def discover (host : Host) (files : Disk) (path : String) (p : String → Bool) :
    Except Failure (List String) :=
  match files.readText path with
  | .error e => .error (.within (.reading path) (.io e))
  | .ok source =>
    match Syntax.parse host.grammar source with
    | .error f => .error (.within (.parsing path) (.parse f))
    | .ok tree => .ok (Suite.testNames tree p)

def resolveTests (c : Config) (host : Host) (files : Disk) (workdir : String) :
    Except Failure (List String) × List Note :=
  if c.names.isEmpty then
    match c.testFile with
    | none => (.error (.config .noTestFile), [])
    | some file =>
      match host.pattern c.pattern with
      | none => (.error .pattern, [])
      | some p =>
        match discover host files (join workdir file) p with
        | .error e => (.error e, [])
        | .ok [] => (.error (.config (.noMatch c.pattern file)), [])
        | .ok names => (.ok names, [.discovered names.length file])
  else (.ok c.names, [])

end Config

end Mender
