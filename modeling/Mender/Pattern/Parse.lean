import Mender.Pattern.Bracket
import Mender.Pattern.Size

namespace Mender.Pattern

open Reader

def dot : Reader CharClass := do
  let flags ← flags
  if !flags.unicode then fail
  return if flags.dotNewline then .all
    else if flags.crlf then .compl (.union (.point '\n') (.point '\r'))
    else .compl (.point '\n')

def primitive (fuel : Nat) : Reader (Nested Pattern) := do
  let c ← peek
  let flags ← flags
  match c with
  | '[' =>
    let a ← bracketed fuel
    return ⟨.one a.value, a.depth⟩
  | '\\' => match ← escape with
    | .literal c => return ⟨.one (flags.fold (.point c)), 0⟩
    | .characters a => return ⟨.one a, 0⟩
    | .assertion a => return ⟨.assert a, 0⟩
  | '.' =>
    bump
    return ⟨.one (← dot), 0⟩
  | '^' =>
    bump
    return ⟨.assert (if flags.multiLine then .lineStart flags.crlf else .textStart), 0⟩
  | '$' =>
    bump
    return ⟨.assert (if flags.multiLine then .lineEnd flags.crlf else .textEnd), 0⟩
  | c =>
    bump
    return ⟨.one (flags.fold (.point c)), 0⟩

def counts : Reader (Nat × Option Nat) := do
  bumpSpace
  let least ← decimal?
  match least with
  | none => fail
  | some least =>
    let bounds ← if (← peek) = ',' then do
        bumpSpace
        if (← peek) = '\x7d' then pure (least, none)
        else match ← decimal? with
          | some most => pure (least, some most)
          | none => fail
      else pure (least, some least)
    expect '\x7d'
    space
    match bounds.2 with
    | some most => if most < least then fail else return bounds
    | none => return bounds

def flagItems : Nat → Bool → List Char → Flags → Reader (Flags × Bool)
  | 0, _, _, _ => fail
  | fuel + 1, negated, seen, flags => do
    let c ← peek
    if c = ':' ∨ c = ')' then
      if seen.head? = some '-' then fail else return (flags, seen ≠ [])
    else
      if c ∈ seen then fail
      bump
      let seen := c :: seen
      match c with
      | '-' => flagItems fuel true seen flags
      | 'i' => flagItems fuel negated seen { flags with ignoreCase := !negated }
      | 'm' => flagItems fuel negated seen { flags with multiLine := !negated }
      | 's' => flagItems fuel negated seen { flags with dotNewline := !negated }
      | 'U' => flagItems fuel negated seen flags
      | 'u' => flagItems fuel negated seen { flags with unicode := !negated }
      | 'R' => flagItems fuel negated seen { flags with crlf := !negated }
      | 'x' => flagItems fuel negated seen { flags with ignoreSpace := !negated }
      | _ => fail

def isNameStart (c : Char) : Bool := c = '_' || alphabetic.contains c.toNat

def isNameRest (c : Char) : Bool :=
  isNameStart c || c = '.' || c = '[' || c = ']' || numbers.contains c.toNat

def groupName : Reader Unit := do
  let name := (← rest).takeWhile (· ≠ '>')
  setRest ((← rest).drop name.length)
  expect '>'
  match name with
  | [] => fail
  | c :: cs =>
    if !isNameStart c ∨ !cs.all isNameRest ∨ name ∈ (← get).groupNames then fail
    modify fun s => { s with groupNames := name :: s.groupNames }

inductive Opening where
  | flags (flags : Flags)
  | group (flags : Flags) (remembered : Bool)

def opening : Reader Opening := do
  bump
  space
  let cs ← rest
  if ["?=", "?!", "?<=", "?<!"].any (·.toList.isPrefixOf cs) then fail
  if ["?P<", "?<"].any (·.toList.isPrefixOf cs) then
    setRest ((cs.dropWhile (· ≠ '<')).tail)
    groupName
    return .group (← flags) true
  else if ← accept "?" then
    let (flags, any) ← flagItems (← rest).length false [] (← flags)
    if (← peek) = ':' then
      bump
      return .group flags false
    else
      bump
      if any then return .flags flags else fail
  else return .group (← flags) true

def catAll : List Pattern → Pattern
  | [] => .empty
  | [p] => p
  | p :: ps => .cat p (catAll ps)

/-- What was read of a group, last first, with `none` where flags were set. -/
abbrev Items := List (Option (Nested Pattern))

def Items.close (items : Items) : Nested Pattern :=
  let parts := items.reverse.filterMap id
  let depth := (parts.map (·.depth)).foldl max 0
  ⟨catAll (parts.map (·.value)), if items.length < 2 then depth else depth + 1⟩

def alternatives (done : List (Nested Pattern)) (last : Nested Pattern) : Nested Pattern :=
  match done with
  | [] => last
  | _ => ⟨done.foldl (fun q p => .alt p.value q) last.value,
      ((done.map (·.depth)).foldl max last.depth) + 1⟩

/-- The pattern up to the end of its group. `done` holds the alternatives before the present one
and `items` what was read of it. -/
def body : Nat → List (Nested Pattern) → Items → Reader (Nested Pattern)
  | 0, _, _ => fail
  | fuel + 1, done, items => do
    space
    let repeatLast (least : Nat) (most : Option Nat) : Reader (Nested Pattern) := do
      let _ ← accept "?"
      match items with
      | some p :: items =>
        body fuel done (some ⟨.repeated p.value least most, p.depth + 1⟩ :: items)
      | _ => fail
    match ← peek? with
    | none => return alternatives done items.close
    | some ')' => return alternatives done items.close
    | some '|' =>
      bump
      body fuel (items.close :: done) []
    | some '*' => bump; repeatLast 0 none
    | some '+' => bump; repeatLast 1 none
    | some '?' => bump; repeatLast 0 (some 1)
    | some '\x7b' =>
      let (least, most) ← counts
      repeatLast least most
    | some '(' =>
      match ← opening with
      | .flags flags =>
        modify fun s => { s with flags }
        body fuel done (none :: items)
      | .group inner remembered =>
        let outer ← flags
        modify fun s => { s with flags := inner }
        let p ← body fuel [] []
        expect ')'
        modify fun s => { s with flags := outer }
        let value := if remembered then .group p.value else p.value
        body fuel done (some ⟨value, p.depth + 1⟩ :: items)
    | some _ =>
      let p ← primitive fuel
      body fuel done (some p :: items)

def depthLimit : Nat := 250

def parse? (text : String) : Option Pattern :=
  let cs := text.toList
  match (body (2 * cs.length + 2) [] []).run { rest := cs } with
  | some (p, s) =>
    if s.rest = [] ∧ p.depth ≤ depthLimit ∧ isSmall p.value then some p.value else none
  | none => none

end Mender.Pattern
