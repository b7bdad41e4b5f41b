import Mender.Machine.Tool.Number

/-!
Binary floating-point numbers and how they are read and written. All rounding is exact: a value is
kept as a whole number times a power of two, and decimals are compared as fractions.
-/

namespace Mender.Machine.Tool

/-- How many binary digits a number has, the least exponent of its last one, and the power of two
that is too large. -/
structure Precision where
  digits : Nat
  least : Int
  most : Nat
  deriving DecidableEq, Repr, Inhabited

def Precision.double : Precision := ⟨53, -1074, 1024⟩

def Precision.extended : Precision := ⟨64, -16445, 16384⟩

inductive Real where
  | finite (negative : Bool) (mantissa : Nat) (exponent : Int)
  | infinite (negative : Bool)
  | undefined (negative : Bool)
  deriving DecidableEq, Repr, Inhabited

def pow2 (n : Nat) : Nat := Nat.pow 2 n

def pow10 (n : Nat) : Nat := Nat.pow 10 n

def roundDiv (a b : Nat) : Nat :=
  let q := a / b
  let r := a % b
  if b < 2 * r ∨ (2 * r = b ∧ q % 2 = 1) then q + 1 else q

def divideByPower (base : Nat) (a b : Nat) (e : Int) : Nat × Nat :=
  if 0 ≤ e then (a, b * Nat.pow base e.toNat) else (a * Nat.pow base (-e).toNat, b)

def bitLength (n : Nat) : Nat := if n = 0 then 0 else n.log2 + 1

namespace Real

def isNegative : Real → Bool
  | finite n _ _ | infinite n | undefined n => n

def negate : Real → Real
  | finite n m e => finite (!n) m e
  | infinite n => infinite (!n)
  | undefined n => undefined (!n)

def ofFraction (p : Precision) (negative : Bool) (a b : Nat) : Real :=
  if a = 0 then finite negative 0 0
  else
    let e := (bitLength a : Int) - bitLength b - p.digits
    let (n, d) := divideByPower 2 a b e
    let e := max p.least (if pow2 p.digits ≤ n / d then e + 1 else e)
    let (n, d) := divideByPower 2 a b e
    let m := roundDiv n d
    if (p.most : Int) < bitLength m + e then infinite negative else finite negative m e

def ofInt (n : Int) : Real := finite (n < 0) n.natAbs 0

def fraction : Real → Nat × Nat
  | finite _ m e => divideByPower 2 m 1 (-e)
  | _ => (0, 1)

def signed (x : Real) : Int × Nat :=
  let (a, b) := x.fraction
  (if x.isNegative then -(a : Int) else a, b)

def less (x y : Real) : Bool :=
  match x, y with
  | undefined _, _ | _, undefined _ => false
  | infinite n, infinite m => n && !m
  | infinite n, _ => n
  | _, infinite m => !m
  | x, y =>
    let (a, b) := x.signed
    let (c, d) := y.signed
    a * d < c * b

def addTimes (p : Precision) (x y : Real) (times : Nat) : Real :=
  let rounded (a : Int) (b : Nat) : Real := ofFraction p (a < 0) a.natAbs b
  match x, y with
  | finite .., finite .. =>
    let (c, d) := y.signed
    let (c, d) := (rounded (c * times) d).signed
    let (a, b) := x.signed
    rounded (a * d + c * b) (b * d)
  | infinite _, _ | undefined _, _ => x
  | _, y => y

end Real

structure Reading? where
  value : Real
  rest : List Char
  outOfRange : Bool
  deriving Repr, Inhabited

def exponentInFront (letters : List Char) (cs : List Char) : Int × List Char :=
  match cs with
  | c :: rest =>
    let (sign, ds) : Int × List Char := match rest with
      | '-' :: ds => (-1, ds)
      | '+' :: ds => (1, ds)
      | ds => (1, ds)
    let digits := ds.takeWhile Char.isDigit
    if c ∈ letters ∧ digits ≠ [] then (sign * decimal digits, ds.drop digits.length) else (0, cs)
  | [] => (0, [])

def digitsInFront? (base : Nat) (cs : List Char) : Option (List Char × Nat × List Char) :=
  let whole := digitsIn base cs
  let rest := cs.drop whole.length
  let (part, rest) := match rest with
    | '.' :: more =>
      let part := digitsIn base more
      if whole = [] ∧ part = [] then ([], rest) else (part, more.drop part.length)
    | rest => ([], rest)
  if whole = [] ∧ part = [] then none else some (whole ++ part, part.length, rest)

def wordInFront (word : String) (cs : List Char) : Bool :=
  (cs.take word.length).map Char.toLower = word.toList

def exponentBound : Int := 40000

def realInFront? (p : Precision) (cs : List Char) : Option Reading? :=
  let unsigned (negative : Bool) (cs : List Char) : Option Reading? :=
    let made (a b : Nat) (rest : List Char) : Reading? :=
      let x := Real.ofFraction p negative a b
      let lost := match x with
        | .finite _ m e => a ≠ 0 && m < pow2 (p.digits - 1) && e = p.least &&
            (let (c, d) := x.fraction
            c * b ≠ a * d)
        | _ => true
      ⟨x, rest, lost⟩
    let scaled (base : Nat) (digits : List Char) (n : Nat) (e : Int) (rest : List Char) :
        Reading? :=
      let bound := max (-exponentBound - digits.length) (min exponentBound e)
      let (a, b) := divideByPower base n 1 (-bound)
      made a b rest
    if wordInFront "infinity" cs then some ⟨.infinite negative, cs.drop 8, false⟩
    else if wordInFront "inf" cs then some ⟨.infinite negative, cs.drop 3, false⟩
    else if wordInFront "nan" cs then
      let rest := cs.drop 3
      let inner := rest.tail.takeWhile fun c => c.isAlphanum || c = '_'
      let closed := rest.head? = some '(' && (rest.drop (inner.length + 1)).head? = some ')'
      some ⟨.undefined negative, if closed then rest.drop (inner.length + 2) else rest, false⟩
    else
      let hexadecimal := match cs with
        | '0' :: c :: rest =>
          if c = 'x' ∨ c = 'X' then digitsInFront? 16 rest else none
        | _ => none
      match hexadecimal with
      | some (digits, places, rest) =>
        let (e, rest) := exponentInFront ['p', 'P'] rest
        some (scaled 2 digits (numberIn 16 digits) (e - 4 * (places : Int)) rest)
      | none =>
        match digitsInFront? 10 cs with
        | some (digits, places, rest) =>
          let (e, rest) := exponentInFront ['e', 'E'] rest
          some (scaled 10 digits (numberIn 10 digits) (e - places) rest)
        | none => none
  match cs.dropWhile isSpace with
  | '-' :: cs => unsigned true cs
  | '+' :: cs => unsigned false cs
  | cs => unsigned false cs

def padLeft (n : Nat) (c : Char) (s : List Char) : List Char :=
  .replicate (n - s.length) c ++ s

def digitsOf (n : Nat) : List Char := Nat.toDigits 10 n

def withPoint (always : Bool) (places : Nat) (ds : List Char) : List Char :=
  let ds := padLeft (places + 1) '0' ds
  let n := ds.length - places
  ds.take n ++ (if places = 0 ∧ !always then [] else '.' :: ds.drop n)

def fixedText (always : Bool) (places : Nat) (a b : Nat) : List Char :=
  withPoint always places (digitsOf (roundDiv (a * pow10 places) b))

def decimalExponent (a b : Nat) : Int :=
  let guess : Int := (digitsOf a).length - (digitsOf b).length
  let (n, d) := divideByPower 10 a b guess
  if n < d then guess - 1 else guess

def scientificDigits (places : Nat) (a b : Nat) : List Char × Int :=
  if a = 0 then (.replicate (places + 1) '0', 0)
  else
    let e := decimalExponent a b
    let (n, d) := divideByPower 10 a b (e - places)
    let ds := digitsOf (roundDiv n d)
    if places + 1 < ds.length then (ds.dropLast, e + 1) else (ds, e)

def exponentText (letter : Char) (least : Nat) (e : Int) : List Char :=
  letter :: (if e < 0 then '-' else '+') :: padLeft least '0' (digitsOf e.natAbs)

def scientificText (always : Bool) (places : Nat) (a b : Nat) : List Char :=
  let (ds, e) := scientificDigits places a b
  withPoint always places ds ++ exponentText 'e' 2 e

def dropZeros (cs : List Char) : List Char :=
  if '.' ∈ cs then
    match cs.reverse.dropWhile (· = '0') with
    | '.' :: rest => rest.reverse
    | rest => rest.reverse
  else cs

def generalText (always : Bool) (digits : Nat) (a b : Nat) : List Char :=
  let digits := max 1 digits
  let (ds, e) := scientificDigits (digits - 1) a b
  let kept (cs : List Char) : List Char := if always then cs else dropZeros cs
  if -4 ≤ e ∧ e < digits then kept (fixedText always ((digits : Int) - 1 - e).toNat a b)
  else kept (withPoint always (digits - 1) ds) ++ exponentText 'e' 2 e

/-- Hexadecimal digits; `front` is how many binary digits stand in front of the point. -/
def hexadecimalText (p : Precision) (front : Nat) (always : Bool) (places : Option Nat) (m : Nat)
    (e : Int) : List Char :=
  let sized (places : Nat) (n : Nat) (e : Int) : List Char :=
    let ds := withPoint always places (Nat.toDigits 16 n)
    '0' :: 'x' :: ds ++ exponentText 'p' 1 e
  if m = 0 then sized (places.getD 0) 0 0
  else
    -- Numbers whose digits are spread over the whole width, as far as their exponent lets them.
    let full := (p.digits - front + 3) / 4 * 4
    let shift := min ((p.digits : Int) - bitLength m) (e - p.least)
    let m := m * pow2 shift.toNat
    let e := e - shift
    let m := m * pow2 (full - (p.digits - front))
    let e := e + (p.digits - front : Nat)
    match places with
    | none =>
      let ds := (withPoint true (full / 4) (Nat.toDigits 16 m)).reverse.dropWhile (· = '0')
      let ds := (if ds.head? = some '.' ∧ !always then ds.tail else ds).reverse
      '0' :: 'x' :: ds ++ exponentText 'p' 1 e
    | some places =>
      if full / 4 ≤ places then sized places (m * pow2 (4 * (places - full / 4))) e
      else
        let n := roundDiv m (pow2 (full - 4 * places))
        let limit := pow2 (front + 4 * places)
        if front = 4 ∧ limit ≤ n then sized places (n / 16) (e + 4) else sized places n e

end Mender.Machine.Tool
