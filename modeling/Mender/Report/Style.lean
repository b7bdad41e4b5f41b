namespace Mender.Report

inductive Color where
  | red
  | green
  | yellow
  | cyan
  deriving DecidableEq, Repr, Inhabited

def Color.code : Color → String
  | red => "31"
  | green => "32"
  | yellow => "33"
  | cyan => "36"

structure Style where
  bold : Bool := false
  color : Option Color := none
  deriving DecidableEq, Repr, Inhabited

namespace Style

def plain : Style := {}

def strong : Style := { bold := true }

def ofColor (c : Color) : Style := { color := some c }

def strongColor (c : Color) : Style := ⟨true, some c⟩

def codes (s : Style) : List String :=
  (if s.bold then ["1"] else []) ++ (s.color.map Color.code).toList

def opening (s : Style) : List Char := "\x1b[".toList ++ (";".intercalate s.codes).toList ++ ['m']

def reset : List Char := "\x1b[0m".toList

/-- Opens the style again after every reset inside the text. -/
def reopen (opening : List Char) : List Char → List Char
  | '\x1b' :: '[' :: '0' :: 'm' :: cs => reset ++ opening ++ reopen opening cs
  | c :: cs => c :: reopen opening cs
  | [] => []

def paint (s : Style) (on : Bool) (text : List Char) : List Char :=
  if !on || s = plain then text else s.opening ++ reopen s.opening text ++ reset

def paintText (s : Style) (on : Bool) (text : String) : String := .ofList (s.paint on text.toList)

end Style

end Mender.Report
