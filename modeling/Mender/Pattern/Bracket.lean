import Mender.Pattern.Property
import Mender.Pattern.Reader

namespace Mender.Pattern

open Reader

structure Nested (α : Type) where
  value : α
  depth : Nat := 0

def isMeta (c : Char) : Bool := c ∈ "\\.+*?()|[]\x7b\x7d^$#&-~".toList

def isEscapable (c : Char) : Bool :=
  isMeta c || (c.toNat < 128 && !c.isAlphanum && c ≠ '<' && c ≠ '>')

def propertyEscape (negated : Bool) : Reader CharClass := do
  bumpSpace
  let c ← peek
  bumpSpace
  let name ← if c = '\x7b' then do
      let name ← spacedWhile (· ≠ '\x7d')
      expect '\x7d'
      pure name
    else pure [c]
  let flags ← flags
  if !flags.unicode then fail
  match property? name with
  | none => fail
  | some a => return if negated then .compl (flags.fold a) else flags.fold a

def shortClass (flags : Flags) (c : Char) : Option CharClass :=
  let pick (wide ascii : CharClass) : CharClass := if flags.unicode then wide else ascii
  let negate (a : CharClass) : Option CharClass := if flags.unicode then some (.compl a) else none
  match c with
  | 'd' => some (pick .digit .asciiDigit)
  | 's' => some (pick .blank .asciiBlank)
  | 'w' => some (pick .word .asciiWord)
  | 'D' => negate .digit
  | 'S' => negate .blank
  | 'W' => negate .word
  | _ => none

inductive Item where
  | literal (c : Char)
  | characters (a : CharClass)
  | assertion (a : Assertion)

def isEdgeName (c : Char) : Bool := c.isAlpha || c = '-'

def edgeName? : Reader (Option WordEdge) := do
  let back ← rest
  bumpSpace
  if !isEdgeName (← peek) then
    setRest back
    return none
  let name ← spacedWhile isEdgeName
  expect '\x7d'
  match String.ofList name with
  | "start" => return some .start
  | "end" => return some .stop
  | "start-half" => return some .startHalf
  | "end-half" => return some .stopHalf
  | _ => fail

def escape : Reader Item := do
  bump
  let c ← peek
  let flags ← flags
  let words : CharClass := if flags.unicode then .word else .asciiWord
  match c with
  | 'x' => return .literal (← hexEscape 2)
  | 'u' => return .literal (← hexEscape 4)
  | 'U' => return .literal (← hexEscape 8)
  | 'p' => return .characters (← propertyEscape false)
  | 'P' => return .characters (← propertyEscape true)
  | _ =>
    bump
    if c ∈ ['d', 's', 'w', 'D', 'S', 'W'] then
      match shortClass flags c with
      | some a => return .characters a
      | none => fail
    else if isEscapable c then return .literal c
    else match c with
      | 'a' => return .literal '\x07'
      | 'f' => return .literal '\x0c'
      | 't' => return .literal '\t'
      | 'n' => return .literal '\n'
      | 'r' => return .literal '\r'
      | 'v' => return .literal '\x0b'
      | 'A' => return .assertion .textStart
      | 'z' => return .assertion .textEnd
      | 'b' =>
        let edge ← if (← peek?) = some '\x7b' then edgeName? else pure none
        return .assertion (.word (edge.getD .boundary) words)
      | 'B' => return .assertion (.word .inside words)
      | '<' => return .assertion (.word .start words)
      | '>' => return .assertion (.word .stop words)
      | _ => fail

def asciiClass? (name : String) : Option CharClass :=
  match name with
  | "alnum" => some (.ofRanges [('0', '9'), ('A', 'Z'), ('a', 'z')])
  | "alpha" => some (.ofRanges [('A', 'Z'), ('a', 'z')])
  | "ascii" => some (.range 0 127)
  | "blank" => some (.ofRanges [('\t', '\t'), (' ', ' ')])
  | "cntrl" => some (.union (.range 0 31) (.range 127 127))
  | "digit" => some .asciiDigit
  | "graph" => some (.ofRanges [('!', '~')])
  | "lower" => some (.ofRanges [('a', 'z')])
  | "print" => some (.ofRanges [(' ', '~')])
  | "punct" => some (.ofRanges [('!', '/'), (':', '@'), ('[', '\x60'), ('\x7b', '~')])
  | "space" => some .asciiBlank
  | "upper" => some (.ofRanges [('A', 'Z')])
  | "word" => some .asciiWord
  | "xdigit" => some (.ofRanges [('0', '9'), ('A', 'F'), ('a', 'f')])
  | _ => none

def namedClass? (cs : List Char) : Option (Bool × CharClass × List Char) :=
  match cs with
  | '[' :: ':' :: cs =>
    let (negated, cs) := match cs with
      | '^' :: cs => (true, cs)
      | cs => (false, cs)
    let name := cs.takeWhile (· ≠ ':')
    match cs.drop name.length with
    | ':' :: ']' :: cs => (asciiClass? (.ofList name)).map (negated, ·, cs)
    | _ => none
  | _ => none

def rangeEnd : Reader Item := do
  let c ← peek
  if c = '\\' then escape
  else
    bump
    return .literal c

def behindDash (flags : Flags) (cs : List Char) : Option Char :=
  if flags.ignoreSpace then
    match cs.dropWhile Text.isBlank with
    | '#' :: cs => (cs.dropWhile Text.isBlank).head?
    | cs => cs.head?
  else cs.head?

def charRange (a b : Char) : Reader CharClass := do
  let flags ← flags
  if b < a ∨ (!flags.unicode ∧ 127 < b.toNat) then fail
  return flags.fold (.range a.toNat b.toNat)

def classRange : Reader CharClass := do
  let first ← rangeEnd
  space
  let behind := behindDash (← flags) (← rest).tail
  if (← peek) ≠ '-' ∨ behind = some ']' ∨ behind = some '-' then
    match first with
    | .literal c => charRange c c
    | .characters a => return a
    | .assertion _ => fail
  else
    bumpSpace
    match first, ← rangeEnd with
    | .literal a, .literal b => charRange a b
    | _, _ => fail

structure ClassItems where
  characters : CharClass := .none
  count : Nat := 0
  depth : Nat := 0

def ClassItems.add (items : ClassItems) (a : Nested CharClass) : ClassItems :=
  ⟨.union items.characters a.value, items.count + 1, max items.depth a.depth⟩

def ClassItems.close (items : ClassItems) : Nested CharClass :=
  ⟨items.characters, if items.count < 2 then items.depth else items.depth + 1⟩

abbrev Waiting := Option ((CharClass → CharClass → CharClass) × Nested CharClass)

def Waiting.close (w : Waiting) (items : ClassItems) : Nested CharClass :=
  let a := items.close
  match w with
  | some (op, lhs) => ⟨op lhs.value a.value, max lhs.depth a.depth + 1⟩
  | none => a

/-- What stands first in a class, where dashes and a closing bracket stand for themselves. -/
def firstItems : Reader ClassItems := do
  let dashes ← spacedWhile (· = '-')
  if dashes = [] ∧ (← peek) = ']' then
    bumpSpace
    return ({} : ClassItems).add ⟨.point ']', 0⟩
  else return dashes.foldl (fun items c => items.add ⟨.point c, 0⟩) {}

mutual

def bracketed : Nat → Reader (Nested CharClass)
  | 0 => fail
  | fuel + 1 => do
    bumpSpace
    let negated := (← peek) = '^'
    if negated then bumpSpace
    let a ← bracketBody fuel none (← firstItems)
    if negated ∧ !(← flags).unicode then fail
    return ⟨if negated then .compl a.value else a.value, a.depth + 1⟩

def bracketBody : Nat → Waiting → ClassItems → Reader (Nested CharClass)
  | 0, _, _ => fail
  | fuel + 1, waiting, items => do
    space
    let c ← peek
    if c = ']' then
      bump
      return waiting.close items
    else if c = '[' then
      match namedClass? (← rest) with
      | some (negated, a, cs) =>
        setRest cs
        let flags ← flags
        if negated ∧ !flags.unicode then fail
        let a := flags.fold a
        bracketBody fuel waiting (items.add ⟨if negated then .compl a else a, 0⟩)
      | none =>
        let a ← bracketed fuel
        bracketBody fuel waiting (items.add a)
    else if ← accept "&&" then bracketBody fuel (some (.inter, waiting.close items)) {}
    else if ← accept "--" then bracketBody fuel (some (.diff, waiting.close items)) {}
    else if ← accept "~~" then bracketBody fuel (some (.symDiff, waiting.close items)) {}
    else
      let a ← classRange
      bracketBody fuel waiting (items.add ⟨a, 0⟩)

end

end Mender.Pattern
