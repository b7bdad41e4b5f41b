import Mender.Syntax.Tree

namespace Mender.Suite

open Syntax

def methodNames (tree : Node) : List String :=
  (tree.walk.filter (·.kind = "method")).filterMap (·.fieldText? "name")

def testNames (tree : Node) (p : String → Bool) : List String :=
  ((methodNames tree).filter p).eraseDups

end Mender.Suite
