import Mender.Pattern.Basic
import Mender.Text.Blank

namespace Mender.Pattern

structure Flags where
  ignoreCase : Bool := false
  multiLine : Bool := false
  dotNewline : Bool := false
  crlf : Bool := false
  unicode : Bool := true
  ignoreSpace : Bool := false

def Flags.fold (flags : Flags) (a : CharClass) : CharClass :=
  if !flags.ignoreCase then a else if flags.unicode then .folded a else .asciiFolded a

structure Reading where
  rest : List Char
  flags : Flags := {}
  groupNames : List (List Char) := []

/-- A reader of part of a pattern; `none` stands for a malformed pattern. -/
abbrev Reader := StateT Reading Option

namespace Reader

def fail {α : Type} : Reader α := fun _ => none

def rest : Reader (List Char) := return (← get).rest

def flags : Reader Flags := return (← get).flags

def setRest (cs : List Char) : Reader Unit := modify fun s => { s with rest := cs }

def dropSpace : Bool → List Char → List Char
  | _, [] => []
  | true, c :: cs => dropSpace (c ≠ '\n') cs
  | false, c :: cs =>
    if Text.isBlank c then dropSpace false cs
    else if c = '#' then dropSpace true cs
    else c :: cs

def space : Reader Unit := do if (← flags).ignoreSpace then setRest (dropSpace false (← rest))

def peek? : Reader (Option Char) := return (← rest).head?

def bump : Reader Unit := do setRest (← rest).tail

def bumpSpace : Reader Unit := do bump; space

def peek : Reader Char := do
  match ← peek? with
  | some c => return c
  | none => fail

def accept (text : String) : Reader Bool := do
  if text.toList.isPrefixOf (← rest) then
    setRest ((← rest).drop text.toList.length)
    return true
  else return false

def expect (c : Char) : Reader Unit := do if (← peek) = c then bump else fail

def spacedUpTo (p : Char → Bool) : Nat → Reader (List Char)
  | 0 => return []
  | n + 1 => do
    match ← peek? with
    | some c =>
      if p c then
        bumpSpace
        return c :: (← spacedUpTo p n)
      else return []
    | none => return []

def spacedWhile (p : Char → Bool) : Reader (List Char) := do spacedUpTo p (← rest).length

end Reader

open Reader

def countLimit : Nat := 0x100000000

def decimal? : Reader (Option Nat) := do
  setRest ((← rest).dropWhile Text.isBlank)
  let digits ← spacedWhile Char.isDigit
  setRest ((← rest).dropWhile Text.isBlank)
  if digits = [] then return none
  let n := digits.foldl (fun n c => 10 * n + (c.toNat - 48)) 0
  if n < countLimit then return some n else fail

def hexValue (c : Char) : Option Nat :=
  if c.isDigit then some (c.toNat - 48)
  else if 'a' ≤ c ∧ c ≤ 'f' then some (c.toNat - 87)
  else if 'A' ≤ c ∧ c ≤ 'F' then some (c.toNat - 55)
  else none

def scalar (digits : List Char) : Reader Char := do
  match digits.mapM hexValue with
  | none => fail
  | some ds =>
    let n := ds.foldl (fun n d => 16 * n + d) 0
    if digits ≠ [] ∧ n.isValidChar then return Char.ofNat n else fail

/-- The character behind `\x`, `\u` or `\U`, which name it by so many hexadecimal digits or by any
number of them in braces. Two digits stand for a byte where characters are bytes. -/
def hexEscape (width : Nat) : Reader Char := do
  bumpSpace
  let isHex (c : Char) : Bool := (hexValue c).isSome
  if (← peek) = '\x7b' then
    bumpSpace
    let digits ← spacedWhile isHex
    expect '\x7d'
    scalar digits
  else
    let digits ← spacedUpTo isHex width
    if digits.length < width then fail
    let c ← scalar digits
    if width = 2 ∧ !(← flags).unicode ∧ 127 < c.toNat then fail
    return c

end Mender.Pattern
