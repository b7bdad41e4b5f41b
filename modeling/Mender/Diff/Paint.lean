import Mender.Text.Lines
import Mender.Report.Style

namespace Mender.Diff

open Text Report

def lineStyle (line : List Char) : Style :=
  if "---".toList.isPrefixOf line || "+++".toList.isPrefixOf line then .strong
  else if "@@".toList.isPrefixOf line then .ofColor .cyan
  else if "+".toList.isPrefixOf line then .ofColor .green
  else if "-".toList.isPrefixOf line then .ofColor .red
  else .plain

/-- Paints a line; its newline stays outside the colour. -/
def paintLine (on : Bool) (line : List Char) : List Char :=
  if line.getLast? = some '\n' then (lineStyle line.dropLast).paint on line.dropLast ++ ['\n']
  else (lineStyle line).paint on line

def colorize (on : Bool) (diff : String) : String :=
  .ofList ((newlinePieces diff.toList).flatMap (paintLine on))

end Mender.Diff
