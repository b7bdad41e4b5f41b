namespace Mender.Diff

abbrev Line := List Char

inductive Edit where
  | keep (line : Line)
  | delete (line : Line)
  | insert (line : Line)
  deriving DecidableEq, Repr, Inhabited

namespace Edit

def line : Edit → Line
  | keep l | delete l | insert l => l

def isKeep : Edit → Bool
  | keep _ => true
  | _ => false

def before (script : List Edit) : List Line :=
  script.filterMap fun
    | keep l | delete l => some l
    | insert _ => none

def after (script : List Edit) : List Line :=
  script.filterMap fun
    | keep l | insert l => some l
    | delete _ => none

end Edit

/-- A choice of edits that lead from one list of lines to another. -/
abbrev LineDiff := List Line → List Line → List Edit

end Mender.Diff
