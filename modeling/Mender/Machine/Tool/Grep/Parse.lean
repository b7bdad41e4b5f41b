import Mender.Machine.Tool.Grep.Regex

/-!
Reading patterns. A pattern is read in two ways: lines are found by one and the matched parts of
them by the other. The two differ only in operators that have nothing to work on.
-/

namespace Mender.Machine.Tool.Grep

inductive PatternFault where
  | badPattern
  | unmatchedBracket
  | unmatchedOpening
  | unmatchedClosing
  | unmatchedBrace
  | badBrace
  | badRange
  | badReference
  | unknownClass
  | badElement
  | trailingBackslash
  | tooBig
  | bareClass
  deriving DecidableEq, Repr, Inhabited

def PatternFault.message : PatternFault → String
  | badPattern => "Invalid regular expression"
  | unmatchedBracket => "Unmatched [, [^, [:, [., or [="
  | unmatchedOpening => "Unmatched ( or \\("
  | unmatchedClosing => "Unmatched ) or \\)"
  | unmatchedBrace => "Unmatched \\\x7b"
  | badBrace => "Invalid content of \\\x7b\\\x7d"
  | badRange => "Invalid range end"
  | badReference => "Invalid back reference"
  | unknownClass => "Invalid character class name"
  | badElement => "Invalid collation character"
  | trailingBackslash => "Trailing backslash"
  | tooBig => "Regular expression too big"
  | bareClass => "character class syntax is [[:space:]], not [:space:]"

def byteClass? (name : String) : Option (List (Char × Char)) :=
  match name with
  | "alpha" => some [('A', 'Z'), ('a', 'z')]
  | "digit" => some [('0', '9')]
  | "alnum" => some [('0', '9'), ('A', 'Z'), ('a', 'z')]
  | "upper" => some [('A', 'Z')]
  | "lower" => some [('a', 'z')]
  | "space" => some [('\t', '\r'), (' ', ' ')]
  | "blank" => some [('\t', '\t'), (' ', ' ')]
  | "punct" => some [('!', '/'), (':', '@'), ('[', '\x60'), ('\x7b', '~')]
  | "print" => some [(' ', '~')]
  | "graph" => some [('!', '~')]
  | "cntrl" => some [('\x00', '\x1f'), ('\x7f', '\x7f')]
  | "xdigit" => some [('0', '9'), ('A', 'F'), ('a', 'f')]
  | _ => none

inductive Member where
  | byte (c : Char)
  | dash
  | element (name : List Char)
  | equivalents (name : List Char)
  | class (name : List Char)
  deriving DecidableEq, Repr, Inhabited

def classNameMost : Nat := 31

def memberName (sign : Char) : Nat → List Char → Option (List Char × List Char)
  | 0, _ => none
  | fuel + 1, cs =>
    match cs with
    | c :: d :: rest =>
      if c = sign ∧ d = ']' then some ([], rest)
      else (memberName sign fuel (d :: rest)).map fun (name, rest) => (c :: name, rest)
    | _ => none

def memberInFront (cs : List Char) : Except PatternFault (Option (Member × List Char)) :=
  let named (sign : Char) (make : List Char → Member) (cs : List Char) :
      Except PatternFault (Option (Member × List Char)) :=
    match memberName sign (classNameMost + 1) cs with
    | some (name, rest) => .ok (some (make name, rest))
    | none => .error .unmatchedBracket
  match cs with
  | [] => .ok none
  | '[' :: '.' :: cs => named '.' .element cs
  | '[' :: '=' :: cs => named '=' .equivalents cs
  | '[' :: ':' :: cs => named ':' .class cs
  | '-' :: '-' :: '-' :: cs => .ok (some (.byte '-', cs))
  | '-' :: cs => .ok (some (.dash, cs))
  | c :: cs => .ok (some (.byte c, cs))

def rangeEnd : Member → Except PatternFault Char
  | .byte c => .ok c
  | .dash => .ok '-'
  | .element [c] => .ok c
  | .element _ => .error .badElement
  | _ => .error .badRange

def Member.ranges : Member → Except PatternFault (List (Char × Char))
  | byte c => .ok [(c, c)]
  | dash => .ok [('-', '-')]
  | element [c] | equivalents [c] => .ok [(c, c)]
  | element _ | equivalents _ => .error .badElement
  | .class name =>
    match byteClass? (.ofList name) with
    | some rs => .ok rs
    | none => .error .unknownClass

def bracketRanges : Nat → Bool → List (Char × Char) → List Char →
    Except PatternFault (List (Char × Char) × List Char)
  | 0, _, _, _ => .error .unmatchedBracket
  | fuel + 1, first, acc, cs => do
    match cs, first with
    | ']' :: rest, false => return (acc, rest)
    | cs, _ =>
      match ← memberInFront cs with
      | none => throw .unmatchedBracket
      | some (a, rest) =>
        if a = .dash ∧ !first ∧ rest.head? ≠ some ']' then throw .badRange
        let mayBegin : Bool := match a with
          | .class _ | .equivalents _ => false
          | _ => true
        match rest, mayBegin with
        | [], _ => throw .unmatchedBracket
        | _, false => bracketRanges fuel false ((← a.ranges) ++ acc) rest
        | _, true =>
          match ← memberInFront rest with
          | some (.dash, behind) =>
            if behind = [] then throw .unmatchedBracket
            else if behind.head? = some ']' then
              bracketRanges fuel false ((← a.ranges) ++ ('-', '-') :: acc) behind
            else
              match ← memberInFront behind with
              | none => throw .unmatchedBracket
              | some (b, rest) =>
                if rest = [] then throw .unmatchedBracket
                let x ← rangeEnd a
                let y ← rangeEnd b
                if y < x then throw .badRange
                bracketRanges fuel false ((x, y) :: acc) rest
          | _ => bracketRanges fuel false ((← a.ranges) ++ acc) rest

def bracketSet (cs : List Char) : Except PatternFault (ByteSet × List Char) := do
  let (negated, inner) := match cs with
    | '^' :: cs => (true, cs)
    | cs => (false, cs)
  if inner = [] then throw .badPattern
  let (ranges, rest) ← bracketRanges (inner.length + 1) true [] inner
  return (⟨negated, ranges⟩, rest)

def isBareClass (cs : List Char) : Bool :=
  let cs := if cs.head? = some '^' then cs.tail else cs
  match cs with
  | ':' :: rest =>
    let name := rest.takeWhile (· ≠ ']')
    name.getLast? = some ':' && name.any (· ≠ ':') &&
      !((name.zip name.tail).any fun (a, b) => a = '[' && b ∈ [':', '.', '=']) &&
      !(name.dropLast.tail.any (· = '-'))
  | _ => false

inductive Token where
  | finish
  | byte (c : Char)
  | any
  | star
  | plus
  | question
  | openCount
  | closeCount
  | openGroup
  | closeGroup
  | alternative
  | anchor (a : Anchor)
  | reference (n : Nat)
  | set (s : ByteSet)
  | bracket
  | backslash
  deriving DecidableEq, Repr, Inhabited

def wordSet : ByteSet := { ranges := wordRanges }

def blankSet : ByteSet := { ranges := [('\t', '\r'), (' ', ' ')] }

structure Dialect where
  /-- Whether operators stand without a backslash. -/
  extended : Bool
  /-- Whether lines are to be found, not parts of them. -/
  finding : Bool
  deriving DecidableEq, Repr, Inhabited

/-- The token in front, `caret` telling that a caret stands for the start of the line, and what is
behind it. -/
def Dialect.token (d : Dialect) (caret : Bool) (cs : List Char) : Token × List Char :=
  let mark (extended : Bool) (c : Char) : Token :=
    if extended ≠ d.extended then .byte c
    else match c with
      | '+' => .plus
      | '?' => .question
      | '\x7b' => .openCount
      | '\x7d' => .closeCount
      | '(' => .openGroup
      | ')' => .closeGroup
      | _ => .alternative
  let marks := "+?\x7b\x7d()|".toList
  match cs with
  | [] => (.finish, [])
  | ['\\'] => (.backslash, [])
  | '\\' :: c :: rest =>
    let t : Token := match c with
      | '<' => .anchor .wordStart
      | '>' => .anchor .wordEnd
      | 'b' => .anchor .wordEdge
      | 'B' => .anchor .noEdge
      | '\x60' => .anchor .lineStart
      | '\'' => .anchor .lineEnd
      | 'w' => .set wordSet
      | 'W' => .set { wordSet with negated := true }
      | 's' => .set blankSet
      | 'S' => .set { blankSet with negated := true }
      | c =>
        if '1' ≤ c ∧ c ≤ '9' then .reference (c.toNat - 48)
        else if c ∈ marks then mark false c
        else .byte c
    (t, rest)
  | '*' :: rest => (.star, rest)
  | '.' :: rest => (.any, rest)
  | '[' :: rest => (.bracket, rest)
  | '^' :: rest => (if d.extended ∨ caret then .anchor .lineStart else .byte '^', rest)
  | '$' :: rest =>
    let ends : Bool := d.extended || rest = [] || (match rest with
      | '\\' :: c :: _ => c = ')' || c = '|'
      | _ => false)
    (if ends then .anchor .lineEnd else .byte '$', rest)
  | c :: rest => (if c ∈ marks then mark true c else .byte c, rest)

def countMost : Nat := 32767

structure Reading where
  rest : List Char
  atStart : Bool := true
  nothingYet : Bool := true
  groups : Nat := 0
  closed : List Nat := []
  depth : Nat := 0

abbrev Reader := StateT Reading (Except PatternFault)

namespace Reader

def peek (d : Dialect) : Reader (Token × List Char) := do
  let s ← get
  return d.token s.atStart s.rest

def advance (rest : List Char) (fresh : Bool) : Reader Unit :=
  modify fun s => { s with rest, atStart := fresh }

def something : Reader Unit := modify fun s => { s with nothingYet := false }

def endsBranch (t : Token) : Reader Bool := do
  let inside := 0 < (← get).depth
  return t = .finish || t = .alternative || (t = .closeGroup && inside)

inductive NumberEnd where
  | finish
  | brace
  | comma
  deriving DecidableEq, Repr, Inhabited

inductive BraceNumber where
  | missing
  | bad
  | number (n : Nat)
  deriving DecidableEq, Repr, Inhabited

def BraceNumber.push (c : Char) : BraceNumber → BraceNumber
  | bad => bad
  | missing => if c.isDigit then number (c.toNat - 48) else bad
  | number n => if c.isDigit then number (min (countMost + 1) (10 * n + (c.toNat - 48))) else bad

def braceNumber (extended : Bool) :
    BraceNumber → List Char → BraceNumber × NumberEnd × List Char
  | _, [] => (.bad, .finish, [])
  | n, '\\' :: c :: cs =>
    if c = '\x7d' ∧ !extended then (n, .brace, cs)
    else braceNumber extended .bad cs
  | n, c :: cs =>
    if c = ',' then (n, .comma, cs)
    else if c = '\x7d' ∧ extended then (n, .brace, cs)
    else braceNumber extended (n.push c) cs

inductive Count where
  | times (least : Nat) (most : Option Nat) (rest : List Char)
  | plain
  deriving Repr, Inhabited

def count (d : Dialect) (cs : List Char) : Except PatternFault Count :=
  let invalid (stop : NumberEnd) : Except PatternFault Count :=
    if d.extended then .ok .plain
    else .error (if stop = .finish then .unmatchedBrace else .badBrace)
  let closed (least : Nat) (most : BraceNumber) (stop : NumberEnd) (rest : List Char) :
      Except PatternFault Count :=
    let known : Option Nat := match most with
      | .number n => some n
      | _ => none
    if most = .bad then invalid stop
    else if known.any (· < least) ∨ stop ≠ .brace then .error .badBrace
    else if countMost < known.getD least then .error .tooBig
    else .ok (.times least known rest)
  match braceNumber d.extended .missing cs with
  | (.bad, stop, _) => invalid stop
  | (.missing, .comma, rest) =>
    let (most, stop, rest) := braceNumber d.extended .missing rest
    closed 0 most stop rest
  | (.missing, _, _) => .error .badBrace
  | (.number n, .comma, rest) =>
    let (most, stop, rest) := braceNumber d.extended .missing rest
    closed n most stop rest
  | (.number n, stop, rest) => closed n (.number n) stop rest

def operators (d : Dialect) : Nat → Regex → Reader Regex
  | 0, r => return r
  | fuel + 1, r => do
    let (t, rest) ← peek d
    let goOn (least : Nat) (most : Option Nat) (rest : List Char) : Reader Regex := do
      advance rest false
      something
      operators d fuel (if most = some 0 then .empty else .repeated least most r)
    match t with
    | .star => goOn 0 none rest
    | .plus => goOn 1 none rest
    | .question => goOn 0 (some 1) rest
    | .openCount =>
      match ← liftM (count d rest) with
      | .times least most rest => goOn least most rest
      | .plain =>
        advance rest false
        something
        return .sequence r (← operators d fuel (.byte (.single '\x7b')))
    | _ => return r

mutual

def alternatives (d : Dialect) : Nat → Reader Regex
  | 0 => throw .badPattern
  | fuel + 1 => do
    let first ← branch d fuel
    match ← peek d with
    | (.alternative, rest) =>
      advance rest true
      modify fun s => { s with nothingYet := true }
      return .either first (← alternatives d fuel)
    | _ => return first

def branch (d : Dialect) : Nat → Reader Regex
  | 0 => throw .badPattern
  | fuel + 1 => do
    let (t, _) ← peek d
    if ← endsBranch t then return .empty
    else
      let first ← item d fuel
      return .sequence first (← branch d fuel)

def item (d : Dialect) : Nat → Reader Regex
  | 0 => throw .badPattern
  | fuel + 1 => do
    let (t, rest) ← peek d
    let size := rest.length + 1
    let single (r : Regex) (rest : List Char) : Reader Regex := do
      advance rest false
      something
      operators d size r
    let byte (c : Char) : Reader Regex := single (.byte (.single c)) rest
    -- An operator that has nothing to work on.
    let lonely (c : Char) : Reader Regex := do
      if !d.extended then byte c
      else if d.finding then operators d (size + 1) .empty
      else
        advance rest false
        let (t, _) ← peek d
        if t = .finish ∨ t = .alternative then return .empty else item d fuel
    match t with
    | .byte c => byte c
    | .any => single (.byte ⟨true, []⟩) rest
    | .set s => single (.byte s) rest
    | .bracket =>
      let (s, behind) ← liftM (bracketSet rest)
      if d.finding ∧ isBareClass rest then throw .bareClass
      single (.byte s) behind
    | .reference n =>
      if n ∈ (← get).closed then single (.reference n) rest else throw .badReference
    | .anchor a =>
      advance rest false
      if d.finding ∧ (d.extended ∨ !(← get).nothingYet) then operators d size (.anchor a)
      else return .anchor a
    | .openGroup =>
      let n := (← get).groups + 1
      advance rest true
      modify fun s => { s with groups := n, depth := s.depth + 1, nothingYet := true }
      let inner ← alternatives d fuel
      match ← peek d with
      | (.closeGroup, rest) =>
        modify fun s => { s with depth := s.depth - 1, closed := n :: s.closed }
        single (.group n inner) rest
      | _ => throw .unmatchedOpening
    | .closeGroup => if d.extended then byte ')' else throw .unmatchedClosing
    | .star => lonely '*'
    | .plus => lonely '+'
    | .question => lonely '?'
    | .openCount =>
      if d.extended ∧ d.finding then
        match count d rest with
        | .ok (.times ..) => operators d (size + 1) .empty
        | _ => byte '\x7b'
      else lonely '\x7b'
    | .closeCount => byte '\x7d'
    | .backslash => throw .trailingBackslash
    | .finish | .alternative => return .empty

end

end Reader

def parse (d : Dialect) (cs : List Char) : Except PatternFault Regex := do
  let (r, _) ← (Reader.alternatives d (4 * cs.length + 8)).run { rest := cs }
  return r

/-- The operators that have nothing to work on, in order; `fresh` tells that nothing but anchors and
such operators has been read of an alternative. -/
def lonelyOperators : Nat → Bool → List Char → List String
  | 0, _, _ => []
  | fuel + 1, fresh, cs =>
    let d : Dialect := ⟨true, true⟩
    let (t, rest) := d.token false cs
    let told (shown : String) : List String := if fresh then [shown] else []
    match t with
    | .finish | .backslash => []
    | .star => told "*" ++ lonelyOperators fuel fresh rest
    | .plus => told "+" ++ lonelyOperators fuel fresh rest
    | .question => told "?" ++ lonelyOperators fuel fresh rest
    | .openCount =>
      match Reader.count d rest with
      | .ok (.times _ _ rest) =>
        told "\x7b...\x7d" ++ lonelyOperators fuel false rest
      | _ => lonelyOperators fuel false rest
    | .alternative | .openGroup => lonelyOperators fuel true rest
    | .anchor _ => lonelyOperators fuel fresh rest
    | .bracket =>
      match bracketSet rest with
      | .ok (_, rest) => lonelyOperators fuel false rest
      | .error _ => []
    | _ => lonelyOperators fuel false rest

def lonelyWarning (shown : String) : String := s!"{shown} at start of expression"

end Mender.Machine.Tool.Grep
