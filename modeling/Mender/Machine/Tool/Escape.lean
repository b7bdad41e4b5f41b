import Mender.Machine.Tool.Number

namespace Mender.Machine.Tool

def isOctal (c : Char) : Bool := '0' ≤ c && c ≤ '7'

def octalByte (ds : List Char) : Char := Char.ofNat (numberIn 8 ds % 256)

def letterEscape (c : Char) : Option Char :=
  match c with
  | 'a' => some '\x07'
  | 'b' => some '\x08'
  | 'e' => some '\x1b'
  | 'f' => some '\x0c'
  | 'n' => some '\n'
  | 'r' => some '\r'
  | 't' => some '\t'
  | 'v' => some '\x0b'
  | '\\' => some '\\'
  | _ => none

/-- What stands for the text behind a backslash, and what is behind it. A zero in front of octal
digits is passed over if `zero`. -/
def escapeInFront (zero : Bool) (cs : List Char) : Char × List Char :=
  let octal (cs : List Char) : Char × List Char :=
    let ds := (cs.take 3).takeWhile isOctal
    (octalByte ds, cs.drop ds.length)
  match cs with
  | c :: rest =>
    if isOctal c then octal (if zero ∧ c = '0' ∧ rest.head?.any isOctal then rest else cs)
    else match letterEscape c with
      | some d => (d, rest)
      | none => ('\\', cs)
  | [] => ('\\', [])

def unescape : Nat → List Char → List Char × Bool
  | 0, _ => ([], false)
  | _ + 1, [] => ([], false)
  | _ + 1, '\\' :: 'c' :: _ => ([], true)
  | fuel + 1, '\\' :: cs =>
    let (c, rest) := escapeInFront true cs
    let (later, stop) := unescape fuel rest
    (c :: later, stop)
  | fuel + 1, c :: cs =>
    let (later, stop) := unescape fuel cs
    (c :: later, stop)

end Mender.Machine.Tool
