import Mender.Files.Fault
import Mender.Syntax.Fault
import Mender.Variant.Build

namespace Mender

inductive Context where
  | reading (path : String)
  | parsing (path : String)
  | writing (path : String)
  | restoring (path : String)
  | executing (program : String)
  | decoding (path : String)
  | pattern (text : String)
  | noted (text : String)
  deriving DecidableEq, Repr, Inhabited

def Context.message : Context → String
  | reading path => s!"Failed to read {path}"
  | parsing path => s!"Failed to parse {path}"
  | writing path => s!"Failed to write {path}"
  | restoring path => s!"Failed to restore {path}"
  | executing program => s!"Failed to execute {program}"
  | decoding path => s!"Invalid config in {path}"
  | pattern text => s!"Invalid test pattern: {text}"
  | noted text => text

inductive HarnessFault where
  | unreadable (path : String) (fault : Files.Fault)
  | unclosedQuote (command : String)
  | emptyCommand
  deriving DecidableEq, Repr, Inhabited

def HarnessFault.message : HarnessFault → String
  | unreadable path fault => s!"Failed to read {path}: {fault.message}"
  | unclosedQuote command =>
    "Failed to parse test command `" ++ command ++ "`: missing closing quote"
  | emptyCommand => "Empty test command"

inductive ConfigFault where
  | noProgram
  | noCommand
  | noTests
  | noTestFile
  | noMatch (pattern file : String)
  deriving DecidableEq, Repr, Inhabited

def ConfigFault.message : ConfigFault → String
  | noProgram => "No program to repair: set [program] source or pass --source"
  | noCommand => "No test command: set [tests] command or pass --command"
  | noTests => "No tests: set [tests] names or file, or pass --test / --test-file"
  | noTestFile => "No test names and no test file configured"
  | noMatch pattern file => s!"No tests matching '{pattern}' in {file}"

inductive Failure where
  | parse (fault : Syntax.Fault)
  | build (error : Variant.BuildError)
  | harness (fault : HarnessFault)
  | config (fault : ConfigFault)
  | io (fault : Files.Fault)
  /-- The document is not TOML or does not have the shape of a configuration. -/
  | document
  | pattern
  | emptyCommand
  | custom (message : String)
  | within (context : Context) (inner : Failure)
  deriving DecidableEq, Repr, Inhabited

def Failure.message : Failure → String
  | parse fault => fault.message
  | build error => error.message
  | harness fault => "Test harness error: " ++ fault.message
  | config fault => fault.message
  | io fault => fault.message
  | document => "malformed document"
  | pattern => "malformed pattern"
  | emptyCommand => "Empty command"
  | custom message => message
  | within context inner => context.message ++ ": " ++ inner.message

end Mender
