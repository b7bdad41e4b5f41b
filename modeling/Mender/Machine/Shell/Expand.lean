import Mender.Machine.Shell.Glob

namespace Mender.Machine.Shell

open Machine.Text

inductive Piece where
  | glyphs (gs : List Glyph)
  /-- A quotation mark; a field in which it stands is one even without text. -/
  | mark
  /-- What an expansion yields outside quotes, or the arguments side by side. -/
  | split (texts : List (List Char))
  /-- Arguments in quotes: each ends a field. -/
  | apart (texts : List (List Char))
  deriving DecidableEq, Repr, Inhabited

inductive Cell where
  | glyph (g : Glyph)
  | mark
  deriving DecidableEq, Repr, Inhabited

structure Splitting where
  fields : List (List Cell) := []
  begun : List Cell := []
  afterBlank : Bool := false
  atArguments : Bool := false
  afterArguments : Bool := false
  left : Option Nat := none
  cut : Option Nat := none

namespace Splitting

def add (s : Splitting) (c : Cell) : Splitting := { s with begun := c :: s.begun }

/-- Takes a character of a text that is split; none stands for the end of an argument. Of the last
field that may be begun, only blank separators at the end are cut. -/
def take (separators : List Char) (s : Splitting) (c : Option Char) : Splitting :=
  let isSeparator := c.all (· ∈ if s.atArguments then [] else separators)
  let isBlank := isSeparator && c.all (· ∈ [' ', '\t', '\n'])
  let cell : List Cell := (c.toList).map fun c => .glyph (c, s.atArguments)
  let size := s.begun.length
  if s.left = some 0 then
    if isBlank then { s with begun := cell ++ s.begun, cut := some (s.cut.getD size) }
    else
      { s with
        begun := cell ++ s.begun
        cut := if isSeparator && s.afterBlank then s.cut else none
        afterBlank := false }
  else if s.afterBlank && isBlank then { s with begun := [] }
  else if s.afterBlank && isSeparator then { s with begun := [], afterBlank := false }
  else
    let begun := if s.afterBlank then [] else s.begun
    if isSeparator then
      let afterBlank := if s.afterArguments || s.atArguments then s.afterBlank else isBlank
      if begun = [] && afterBlank then { s with begun := [], afterBlank := false }
      else if s.left = some 1 then
        { s with begun := cell ++ begun, left := some 0, cut := some begun.length, afterBlank }
      else
        { s with
          fields := begun :: s.fields
          begun := []
          left := s.left.map (· - 1)
          afterBlank }
    else { s with begun := cell ++ begun, afterBlank := false }

def takeAll (separators : List Char) (s : Splitting) (arguments : Bool) (texts : List (List Char)) :
    Splitting :=
  let s := { s with
    atArguments := arguments
    afterArguments := s.atArguments
    afterBlank := false }
  let characters := (texts.map (·.map some)).intersperse [none] |>.flatten
  characters.foldl (take separators) s

def piece (separators : List Char) (s : Splitting) : Piece → Splitting
  | .glyphs gs => gs.foldl (fun s g => s.add (.glyph g)) s
  | .mark => s.add .mark
  | .split texts => s.takeAll separators false texts
  | .apart texts => s.takeAll separators true texts

def finish (s : Splitting) : List (List Cell) :=
  let last := match s.atArguments, s.cut with
    | false, some n => s.begun.drop (s.begun.length - n)
    | _, _ => s.begun
  let fields := if last = [] && !s.atArguments then s.fields else last :: s.fields
  fields.reverse.map List.reverse

end Splitting

def glyphOf? : Cell → Option Glyph
  | .glyph g => some g
  | .mark => none

def fieldsOf (separators : List Char) (bound : Option Nat) (pieces : List Piece) :
    List (List Glyph) :=
  let s := pieces.foldl (Splitting.piece separators) { left := bound }
  s.finish.map (·.filterMap glyphOf?)

def glyphsOf (pieces : List Piece) : List Glyph :=
  pieces.flatMap fun
    | .glyphs gs => gs
    | .mark => []
    | .split texts => texts.flatten.map (·, false)
    | .apart texts => texts.flatten.map (·, true)

end Mender.Machine.Shell
