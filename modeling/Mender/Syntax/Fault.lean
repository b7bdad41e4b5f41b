namespace Mender.Syntax

inductive FaultKind where
  | missing (kind : String)
  | unexpected
  /-- The parser gave up and answered no rows at all. -/
  | noTree
  deriving DecidableEq, Repr, Inhabited

structure Fault where
  line : Nat
  column : Nat
  kind : FaultKind
  deriving DecidableEq, Repr, Inhabited

def FaultKind.message : FaultKind → String
  | missing kind => "missing '" ++ kind ++ "'"
  | unexpected => "unexpected syntax"
  | noTree => "Parser produced no tree"

def Fault.message (f : Fault) : String :=
  s!"Parse error at {f.line}:{f.column}: {f.kind.message}"

end Mender.Syntax
