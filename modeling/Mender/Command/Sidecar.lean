import Mender.Files.Disk
import Mender.Syntax.Lower
import Mender.Syntax.Table

namespace Mender.Command

open Files Syntax

def tableSuffix : String := ".tree"

/-- The parse of a text that some file holds which has a table. -/
def sidecarGrammar (files : Disk) : Syntax.Grammar := fun source =>
  let all := files.filesBelow files.here
  all.findSome? fun (name, content) =>
    if content.toList = source.toUTF8.toList then do
      let table ← all.lookup (name ++ tableSuffix)
      Parsed.ofTable? (← String.fromUTF8? table)
    else none

end Mender.Command
