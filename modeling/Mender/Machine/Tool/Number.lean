namespace Mender.Machine.Tool

def isSpace (c : Char) : Bool := c = ' ' || ('\t' ≤ c && c ≤ '\r')

def digitValue (c : Char) : Nat :=
  if c.isDigit then c.toNat - 48 else if c.isUpper then c.toNat - 55 else c.toNat - 87

def isDigitIn (base : Nat) (c : Char) : Bool := c.isAlphanum && digitValue c < base

def digitsIn (base : Nat) (cs : List Char) : List Char := cs.takeWhile (isDigitIn base)

def numberIn (base : Nat) (ds : List Char) : Nat :=
  ds.foldl (fun n c => base * n + digitValue c) 0

def decimal (ds : List Char) : Nat := numberIn 10 ds

def baseInFront (cs : List Char) : Nat × List Char :=
  let marked (base : Nat) (rest : List Char) (otherwise : Nat × List Char) : Nat × List Char :=
    if rest.head?.any (isDigitIn base) then (base, rest) else otherwise
  match cs with
  | '0' :: c :: rest =>
    if c = 'x' ∨ c = 'X' then marked 16 rest (8, cs)
    else if c = 'b' ∨ c = 'B' then marked 2 rest (8, cs)
    else (8, cs)
  | '0' :: _ => (8, cs)
  | _ => (10, cs)

def numberInFront? (base : Option Nat) (cs : List Char) : Option (Int × List Char) :=
  let unsigned (sign : Int) (cs : List Char) : Option (Int × List Char) :=
    let (base, cs) := match base with
      | some base => (base, cs)
      | none => baseInFront cs
    match digitsIn base cs with
    | [] => none
    | ds => some (sign * numberIn base ds, cs.drop ds.length)
  match cs.dropWhile isSpace with
  | '-' :: cs => unsigned (-1) cs
  | '+' :: cs => unsigned 1 cs
  | cs => unsigned 1 cs

def wordMost : Int := 0x7FFFFFFFFFFFFFFF

def wordLeast : Int := -0x8000000000000000

def wordCount : Nat := 0x10000000000000000

/-- The word that a whole number comes to when what does not fit is lost. -/
def wrap (n : Int) : Int := n.bmod wordCount

def clamp (n : Int) : Int := max wordLeast (min wordMost n)

def word? (base : Option Nat) (s : String) : Option Int :=
  match numberInFront? base s.toList with
  | some (n, rest) =>
    if rest.all isSpace && wordLeast ≤ n && n ≤ wordMost then some n else none
  | none => none

end Mender.Machine.Tool
