import Mender.Machine.Shell.Arithmetic
import Mender.Machine.Shell.State

namespace Mender.Machine.Shell

open Run Machine.Text

inductive Tilde where
  | nowhere
  | front
  | fronts
  deriving DecidableEq, Repr, Inhabited

def userHomes : List (String × String) := [("root", "/root"), ("nobody", "/nonexistent")]

def homeOf (name : List Char) : Run (Option String) := do
  if name = [] then value? "HOME" else return userHomes.lookup (.ofList name)

def plainPiece (cs : List Char) : Piece := .glyphs (cs.map (·, false))

def quotedPiece (cs : List Char) : Piece := .glyphs (cs.map (·, true))

/-- The pieces of text in which tildes may stand. Where nothing follows in the word (`alone`), a
name ends with the text too. -/
def tildePieces (colons alone : Bool) : Nat → Bool → List Char → Run (List Piece)
  | 0, _, cs => return [plainPiece cs]
  | _ + 1, _, [] => return []
  | fuel + 1, true, '~' :: cs => do
    let ends (c : Char) : Bool := c = '/' || (colons && c = ':')
    let name := cs.takeWhile (!ends ·)
    let rest := cs.drop name.length
    let home ← if rest = [] ∧ !alone then pure none else homeOf name
    let front := match home with
      | some home => quotedPiece home.toList
      | none => plainPiece ('~' :: name)
    return front :: (← tildePieces colons alone fuel false rest)
  | fuel + 1, _, cs => do
    if !colons then return [plainPiece cs]
    let text := cs.takeWhile (· ≠ ':')
    match cs.drop text.length with
    | [] => return [plainPiece text]
    | _ :: rest => return plainPiece (text ++ [':']) :: (← tildePieces true alone fuel true rest)

def Piece.unprotected : Piece → Piece
  | .glyphs gs => if gs.any (·.2) then .glyphs gs else .split [gs.map (·.1)]
  | p => p

def valuePieces (quoted : Bool) (value : String) : List Piece :=
  if quoted then [quotedPiece value.toList] else [.split [value.toList]]

def isArguments (name : String) : Bool := name = "@" || name = "*"

def joinedArguments : Run String :=
  return (String.ofList ((← separators).take 1)).intercalate (← get).arguments

def argumentPieces (splitting : Bool) (name : String) (quoted : Bool) : Run (List Piece) := do
  let arguments := (← get).arguments.map String.toList
  if arguments = [] then return []
  else if splitting ∧ !quoted then return [.split arguments]
  else if splitting ∧ name = "@" then return [.apart arguments]
  else return valuePieces quoted (← joinedArguments)

def anyParameter? (name : String) : Run (Option String) := do
  if isArguments name then return some (← joinedArguments) else parameter? name

def heldParameter (name : String) : Run String := do
  match ← anyParameter? name with
  | some value => return value
  | none =>
    if ← isOn "nounset" then abort s!"{name}: parameter not set"
    return ""

/-- The text less the shortest or longest part at its front or end that the pattern matches. A part
is matched up to its first zero character. -/
def trimMatch (atEnd longest : Bool) (items : List GlobItem) (cs : List Char) : List Char :=
  let sizes := List.range (cs.length + 1)
  let sizes := if longest then sizes.reverse else sizes
  let matched := sizes.find? fun n =>
    let part := if atEnd then cs.drop (cs.length - n) else cs.take n
    globMatches items (part.takeWhile (· ≠ '\x00'))
  match matched with
  | some n => if atEnd then cs.take (cs.length - n) else cs.drop n
  | none => cs

def substitutedText (cs : List Char) : List Char :=
  ((cs.filter (· ≠ '\x00')).reverse.dropWhile (· = '\n')).reverse

def wordDepth : Nat := 10000

mutual

def expandPart (substitute : Command → Run (List Char)) :
    Nat → Bool → Tilde → Bool → Part → Run (List Piece)
  | 0, _, _, _, _ => return []
  | fuel + 1, splitting, tilde, alone, part => do
    match part with
    | .plain cs => tildePieces (tilde = .fronts) alone (cs.length + 1) (tilde ≠ .nowhere) cs
    | .quoted cs => return [quotedPiece cs]
    | .mark => return [.mark]
    | .parameter name quoted =>
      if isArguments name then argumentPieces splitting name quoted
      else return valuePieces quoted (← heldParameter name)
    | .length name quoted =>
      return valuePieces quoted (toString (← heldParameter name).length)
    | .fallback name orEmpty how word quoted =>
      let value := (← anyParameter? name).filter fun v => !orEmpty || v ≠ ""
      let inner : Run (List Piece) := do
        return (← expandWord substitute fuel splitting .front word).map Piece.unprotected
      let text : Run String := do
        return textOf (glyphsOf (← expandWord substitute fuel false .front word))
      match how, value with
      | .replace, none => return valuePieces quoted ""
      | .replace, some _ => inner
      | _, some v =>
        if isArguments name then argumentPieces splitting name quoted
        else return valuePieces quoted v
      | .use, none => inner
      | .assign, none =>
        let v ← text
        checkName name
        assign name v
        return valuePieces quoted v
      | .fail, none =>
        let v ← text
        let missing := "parameter not set" ++ if orEmpty then " or null" else ""
        let reason := if word.isEmpty then missing else v
        abort s!"{name}: {reason}"
    | .trimmed name atEnd longest pattern quoted =>
      let listed := isArguments name && splitting && (!quoted || name = "@")
      match ← anyParameter? name with
      | none => return valuePieces quoted (← heldParameter name)
      | some value =>
        let items := globOf (glyphsOf (← expandWord substitute fuel false .front pattern))
        let trim := trimMatch atEnd longest items
        if listed then
          let arguments := (← get).arguments.map String.toList
          let left := (trim (['\x00'].intercalate arguments)).splitOn '\x00'
          return [if quoted then .apart left else .split left]
        else return valuePieces quoted (.ofList (trim value.toList))
    | .malformed => abort "Bad substitution"
    | .arithmetic expression quoted =>
      let pieces ← expandWord substitute fuel false .nowhere expression
      let text := textOf (glyphsOf pieces)
      let bindings := (← get).bindings
      let value (name : String) : String := ((bindings.lookup name).bind (·.value)).getD ""
      match calculate value text with
      | .error f => abort (f.message text)
      | .ok (n, assigned) =>
        for (name, n) in assigned.reverse do assign name (toString n)
        return valuePieces quoted (toString n)
    | .output c quoted =>
      return valuePieces quoted (.ofList (substitutedText (← substitute c)))

/-- The pieces of a word. All arguments in quotes that stand for themselves yield nothing if there
are none. -/
def expandWord (substitute : Command → Run (List Char)) :
    Nat → Bool → Tilde → Word → Run (List Piece)
  | 0, _, _, _ => return []
  | fuel + 1, splitting, tilde, word => do
    let after := if tilde = .fronts then Tilde.fronts else .nowhere
    match word with
    | [] => return []
    | .mark :: .parameter "@" true :: .mark :: rest =>
      let first ← argumentPieces splitting "@" true
      return first ++ (← expandRest substitute fuel splitting after rest)
    | part :: rest =>
      let first ← expandPart substitute fuel splitting tilde rest.isEmpty part
      return first ++ (← expandRest substitute fuel splitting after rest)

def expandRest (substitute : Command → Run (List Char)) :
    Nat → Bool → Tilde → Word → Run (List Piece)
  | 0, _, _, _ => return []
  | fuel + 1, splitting, tilde, word => do
    match tilde, word with
    | .fronts, .plain cs :: rest =>
      let first ← tildePieces true rest.isEmpty (cs.length + 1) false cs
      return first ++ (← expandRest substitute fuel splitting .fronts rest)
    | _, .mark :: .parameter "@" true :: .mark :: rest =>
      let first ← argumentPieces splitting "@" true
      return first ++ (← expandRest substitute fuel splitting tilde rest)
    | _, part :: rest =>
      let first ← expandPart substitute fuel splitting .nowhere rest.isEmpty part
      return first ++ (← expandRest substitute fuel splitting tilde rest)
    | _, [] => return []

end

def expandText (substitute : Command → Run (List Char)) (tilde : Tilde) (word : Word) :
    Run String :=
  return textOf (glyphsOf (← expandWord substitute wordDepth false tilde word))

def expandPattern (substitute : Command → Run (List Char)) (word : Word) :
    Run (List GlobItem) :=
  return globOf (glyphsOf (← expandWord substitute wordDepth false .front word))

def expandField (substitute : Command → Run (List Char)) (word : Word) : Run (List String) := do
  let pieces ← expandWord substitute wordDepth true .front word
  let fields := fieldsOf (← separators) none pieces
  if ← isOn "noglob" then return fields.map textOf
  else
    let files := (← get).files
    return fields.flatMap (expandPaths files)

def expandFields (substitute : Command → Run (List Char)) (words : List Word) :
    Run (List String) := do
  return (← words.mapM (expandField substitute)).flatten

end Mender.Machine.Shell
