namespace Mender.Syntax

structure Row where
  kind : String
  start : Nat
  stop : Nat
  field : Option String
  isError : Bool
  isMissing : Bool
  hasError : Bool
  /-- Start position, counted from zero, the column in bytes. -/
  line : Nat
  column : Nat
  deriving DecidableEq, Repr, Inhabited

inductive Rows where
  | nil
  | cons (row : Row) (below rest : Rows)
  deriving DecidableEq, Repr, Inhabited

structure Parsed where
  root : Row
  below : Rows
  deriving DecidableEq, Repr, Inhabited

namespace Row

def faulty (r : Row) : Bool := r.isError || r.isMissing

end Row

namespace Rows

def toList : Rows → List Row
  | nil => []
  | cons r below rest => r :: (below.toList ++ rest.toList)

/-- The first faulty row, looking only below rows that carry an error. -/
def firstFault : Rows → Option Row
  | nil => none
  | cons r below rest =>
    if r.hasError then
      if r.faulty then some r else below.firstFault.or rest.firstFault
    else rest.firstFault

end Rows

namespace Parsed

def toList (p : Parsed) : List Row := p.root :: p.below.toList

def firstFault (p : Parsed) : Row :=
  if p.root.faulty then p.root else p.below.firstFault.getD p.root

end Parsed

end Mender.Syntax
