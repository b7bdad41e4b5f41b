namespace Mender.Machine.Text

abbrev Glyph := Char × Bool

inductive GlobItem where
  | literal (c : Char)
  | anyChar
  | anyText
  | oneOf (negated : Bool) (members : List (Char → Bool))
  deriving Inhabited

/-- The number of a byte in the order of patterns, in which the upper half comes first. -/
def signedByte (c : Char) : Int := if c.toNat < 128 then c.toNat else (c.toNat : Int) - 256

def namedClass? (name : String) : Option (Char → Bool) :=
  let isPrint (c : Char) : Bool := ' ' ≤ c && c ≤ '~'
  match name with
  | "alnum" => some Char.isAlphanum
  | "alpha" => some Char.isAlpha
  | "blank" => some fun c => c = ' ' || c = '\t'
  | "cntrl" => some fun c => c < ' ' || c = '\x7f'
  | "digit" => some Char.isDigit
  | "graph" => some fun c => isPrint c && c ≠ ' '
  | "lower" => some Char.isLower
  | "print" => some isPrint
  | "punct" => some fun c => isPrint c && c ≠ ' ' && !c.isAlphanum
  | "space" => some fun c => c = ' ' || ('\t' ≤ c && c ≤ '\r')
  | "upper" => some Char.isUpper
  | "xdigit" => some fun c => c.isDigit || ('a' ≤ c && c ≤ 'f') || ('A' ≤ c && c ≤ 'F')
  | _ => none

def classInFront (gs : List Glyph) : Option ((Char → Bool) × List Glyph) :=
  match gs with
  | (':', false) :: gs =>
    let name := gs.takeWhile fun (c, quoted) => c.isAlpha && !quoted
    match gs.drop name.length with
    | (':', false) :: (']', false) :: rest =>
      (namedClass? (.ofList (name.map (·.1)))).map fun a => (a, rest)
    | _ => none
  | _ => none

def takeGlyph : List Glyph → Option (Char × List Glyph)
  | [] => none
  | ('\\', false) :: (c, _) :: gs => some (c, gs)
  | (c, _) :: gs => some (c, gs)

def bracketMembers : Nat → Bool → List (Char → Bool) → List Glyph →
    Option (List (Char → Bool) × List Glyph)
  | 0, _, _, _ => none
  | fuel + 1, first, acc, gs =>
    let single (gs : List Glyph) : Option (List (Char → Bool) × List Glyph) := do
      let (a, rest) ← takeGlyph gs
      match rest with
      | ('-', false) :: behind =>
        if behind.head? = some (']', false) then
          bracketMembers fuel false ((· = a) :: acc) rest
        else
          let (b, rest) ← takeGlyph behind
          let within (c : Char) : Bool :=
            signedByte a ≤ signedByte c && signedByte c ≤ signedByte b
          bracketMembers fuel false (within :: acc) rest
      | rest => bracketMembers fuel false ((· = a) :: acc) rest
    match gs with
    | [] => none
    | (']', false) :: rest => if first then single gs else some (acc, rest)
    | ('[', false) :: rest =>
      match classInFront rest with
      | some (a, rest) => bracketMembers fuel false (a :: acc) rest
      | none => single gs
    | gs => single gs

/-- The items of a pattern; an opening bracket that is never closed stands for itself. -/
def globItems : Nat → List Glyph → List GlobItem
  | 0, _ => []
  | _ + 1, [] => []
  | fuel + 1, (c, true) :: gs => .literal c :: globItems fuel gs
  | fuel + 1, ('\\', false) :: (c, _) :: gs => .literal c :: globItems fuel gs
  | fuel + 1, ('*', false) :: gs => .anyText :: globItems fuel gs
  | fuel + 1, ('?', false) :: gs => .anyChar :: globItems fuel gs
  | fuel + 1, ('[', false) :: gs =>
    let (negated, inner) := match gs with
      | ('!', false) :: gs => (true, gs)
      | gs => (false, gs)
    match bracketMembers (inner.length + 1) true [] inner with
    | some (members, gs) => .oneOf negated members :: globItems fuel gs
    | none => .literal '[' :: globItems fuel gs
  | fuel + 1, (c, false) :: gs => .literal c :: globItems fuel gs

def GlobItem.accepts (c : Char) : GlobItem → Bool
  | literal d => c = d
  | anyChar => true
  | anyText => false
  | oneOf negated members => members.any (· c) != negated

def anyEnd (test : List Char → Bool) : List Char → Bool
  | [] => test []
  | c :: cs => test (c :: cs) || anyEnd test cs

def globMatches : List GlobItem → List Char → Bool
  | [], cs => cs.isEmpty
  | .anyText :: is, cs => anyEnd (globMatches is) cs
  | i :: is, c :: cs => i.accepts c && globMatches is cs
  | _ :: _, [] => false

def globOf (gs : List Glyph) : List GlobItem := globItems (gs.length + 1) gs

def textOf (gs : List Glyph) : String := .ofList (gs.map (·.1))

def matchesGlob (pattern text : String) : Bool :=
  globMatches (globOf (pattern.toList.map (·, false))) text.toList

end Mender.Machine.Text
