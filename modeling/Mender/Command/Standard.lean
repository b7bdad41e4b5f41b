import Mender.Command.Arguments
import Mender.Host
import Mender.Pattern.Parse
import Mender.Pattern.Match
import Mender.Shell.Words
import Mender.Toml.Parse

namespace Mender

/-- A host that reads patterns, documents, command lines and arguments as the program does. -/
def Host.standard (grammar : Syntax.Grammar)
    (spawn : String → String → List String → Files.Disk →
      Except Files.Fault Finished × Files.Disk) : Host where
  grammar
  pattern s := (Pattern.parse? s).map Pattern.occursIn
  document := Toml.parse?
  words := Shell.splitWords
  arguments := Command.Invocation.read
  spawn

end Mender
