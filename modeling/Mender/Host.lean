import Mender.Command.Request
import Mender.Files.Disk
import Mender.Syntax.Lower
import Mender.Toml.Value

namespace Mender

open Files

structure Finished where
  /-- The exit code, or -1 if the command was killed. -/
  exitCode : Int
  stdout : ByteArray
  stderr : ByteArray
  deriving Inhabited

/-- What the program takes from elsewhere. Nothing is assumed of any of it. -/
structure Host where
  grammar : Syntax.Grammar
  /-- Whether a pattern occurs in a text; none if it is no pattern. -/
  pattern : String → Option (String → Bool)
  /-- The fields of a document of settings; none if it is malformed. -/
  document : String → Option Toml.Fields
  /-- The words of a command line; none if a quote is not closed. -/
  words : String → Option (List String)
  arguments : List String → Except Command.UsageFault Command.Invocation
  spawn (workdir program : String) (arguments : List String) (files : Disk) :
    Except Fault Finished × Disk

end Mender
