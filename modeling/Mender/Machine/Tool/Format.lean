import Mender.Machine.Tool.Real

namespace Mender.Machine.Tool

structure Conversion where
  left : Bool := false
  zero : Bool := false
  plus : Bool := false
  space : Bool := false
  alternate : Bool := false
  grouped : Bool := false
  width : Nat := 0
  precision : Option Nat := none
  letter : Char
  deriving DecidableEq, Repr, Inhabited

namespace Conversion

def withFlag (c : Conversion) (flag : Char) : Conversion :=
  match flag with
  | '-' => { c with left := true }
  | '0' => { c with zero := true }
  | '+' => { c with plus := true }
  | ' ' => { c with space := true }
  | '#' => { c with alternate := true }
  | '\'' => { c with grouped := true }
  | _ => c

def withWidth (c : Conversion) (width : Int) : Conversion :=
  { c with left := c.left || width < 0, width := width.natAbs }

def withPrecision (c : Conversion) (precision : Int) : Conversion :=
  { c with precision := if precision < 0 then none else some precision.toNat }

def pad (c : Conversion) (cs : List Char) : List Char :=
  let missing := List.replicate (c.width - cs.length) ' '
  if c.left then cs ++ missing else missing ++ cs

def padNumber (c : Conversion) (zeros : Bool) (front digits : List Char) : List Char :=
  if zeros ∧ !c.left then front ++ padLeft (c.width - front.length) '0' digits
  else c.pad (front ++ digits)

def text (c : Conversion) (cs : List Char) : List Char :=
  c.pad (match c.precision with
    | some n => cs.take n
    | none => cs)

def sign (c : Conversion) (negative : Bool) : List Char :=
  if negative then ['-'] else if c.plus then ['+'] else if c.space then [' '] else []

def digits (c : Conversion) (base n : Nat) : List Char :=
  let ds := if n = 0 ∧ c.precision = some 0 then [] else Nat.toDigits base n
  padLeft (c.precision.getD 1) '0' ds

def integer (c : Conversion) (n : Int) : List Char :=
  c.padNumber (c.zero && c.precision.isNone) (c.sign (n < 0)) (c.digits 10 n.natAbs)

def natural (c : Conversion) (n : Nat) : List Char :=
  let zeros := c.zero && c.precision.isNone
  match c.letter with
  | 'o' =>
    let ds := c.digits 8 n
    c.padNumber zeros [] (if c.alternate ∧ ds.head? ≠ some '0' then '0' :: ds else ds)
  | 'x' => c.padNumber zeros (if c.alternate ∧ n ≠ 0 then ['0', 'x'] else []) (c.digits 16 n)
  | 'X' =>
    c.padNumber zeros (if c.alternate ∧ n ≠ 0 then ['0', 'X'] else [])
      ((c.digits 16 n).map Char.toUpper)
  | _ => c.padNumber zeros [] (c.digits 10 n)

/-- A real number; `front` is how many binary digits its hexadecimal form has in front of the
point. -/
def real (c : Conversion) (p : Precision) (front : Nat) (x : Real) : List Char :=
  let sized (cs : List Char) : List Char := if c.letter.isUpper then cs.map Char.toUpper else cs
  let sign := c.sign x.isNegative
  let places := c.precision.getD 6
  match x with
  | .infinite _ => c.pad (sign ++ sized "inf".toList)
  | .undefined _ => c.pad (sign ++ sized "nan".toList)
  | .finite _ m e =>
    let (a, b) := x.fraction
    match c.letter.toLower with
    | 'f' => c.padNumber c.zero sign (fixedText c.alternate places a b)
    | 'e' => c.padNumber c.zero sign (sized (scientificText c.alternate places a b))
    | 'g' => c.padNumber c.zero sign (sized (generalText c.alternate places a b))
    | _ =>
      let ds := sized (hexadecimalText p front c.alternate c.precision m e)
      c.padNumber c.zero (sign ++ ds.take 2) (ds.drop 2)

end Conversion

inductive Extent where
  | fixed (n : Nat)
  | asked
  deriving DecidableEq, Repr, Inhabited

structure Directive where
  flags : List Char
  width : Extent
  precision : Option Extent
  deriving DecidableEq, Repr, Inhabited

def extentInFront : List Char → Extent × List Char
  | '*' :: cs => (.asked, cs)
  | cs =>
    let ds := cs.takeWhile Char.isDigit
    (.fixed (decimal ds), cs.drop ds.length)

def directiveInFront (flags : List Char) (cs : List Char) : Directive × List Char :=
  let given := cs.takeWhile (· ∈ flags)
  let (width, cs) := extentInFront (cs.drop given.length)
  match cs with
  | '.' :: cs =>
    let (precision, cs) := extentInFront cs
    (⟨given, width, some precision⟩, cs)
  | cs => (⟨given, width, none⟩, cs)

def Directive.conversion (d : Directive) (letter : Char) (width precision : Int) : Conversion :=
  let c := d.flags.foldl Conversion.withFlag { letter }
  let c := match d.width with
    | .fixed n => c.withWidth n
    | .asked => c.withWidth width
  match d.precision with
  | none => c
  | some (.fixed n) => c.withPrecision n
  | some .asked => c.withPrecision precision

end Mender.Machine.Tool
