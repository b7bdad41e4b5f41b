namespace Mender.Machine.Shell

inductive Fallback where
  | use
  | assign
  | fail
  | replace
  deriving DecidableEq, Repr, Inhabited

inductive Direction where
  | read
  | write
  | overwrite
  | append
  | readWrite
  | share
  | document (index : Nat)
  deriving DecidableEq, Repr, Inhabited

mutual

inductive Part where
  | plain (text : List Char)
  | quoted (text : List Char)
  | mark
  | parameter (name : String) (quoted : Bool)
  | length (name : String) (quoted : Bool)
  /-- With `orEmpty`, an empty value counts as none. -/
  | fallback (name : String) (orEmpty : Bool) (how : Fallback) (word : List Part) (quoted : Bool)
  /-- A value less the shortest or longest text at its front or end that the pattern matches. -/
  | trimmed (name : String) (atEnd longest : Bool) (pattern : List Part) (quoted : Bool)
  | malformed
  | arithmetic (expression : List Part) (quoted : Bool)
  | output (command : Command) (quoted : Bool)

inductive Redirect where
  | mk (descriptor : Nat) (direction : Direction) (target : List Part)

inductive Command where
  | skip
  | simple (line : Nat) (assignments : List (String × List Part)) (words : List (List Part))
    (redirects : List Redirect)
  | negate (c : Command)
  | pipe (commands : List Command) (background : Bool)
  | both (a b : Command)
  | either (a b : Command)
  | sequence (a b : Command)
  | branch (condition yes : Command) (no : Option Command)
  /-- Repeats while the condition ends with `wanted`. -/
  | loop (wanted : Bool) (condition body : Command)
  | forEach (line : Nat) (name : String) (words : List (List Part)) (body : Command)
  | choose (line : Nat) (word : List Part) (choices : List (List (List Part) × Command))
  | subshell (line : Nat) (c : Command) (redirects : List Redirect)
  | background (line : Nat) (c : Command) (redirects : List Redirect)
  | redirected (line : Nat) (c : Command) (redirects : List Redirect)
  | define (line : Nat) (name : String) (body : Command)

end

instance : Inhabited Part := ⟨.mark⟩

instance : Inhabited Redirect := ⟨.mk 0 .read []⟩

instance : Inhabited Command := ⟨.skip⟩

abbrev Word := List Part

def allArguments : Word := [.mark, .parameter "@" true, .mark]

def Part.isQuoting : Part → Bool
  | quoted _ | mark => true
  | _ => false

def plainText? : Word → Option (List Char)
  | [] => some []
  | [.plain cs] => some cs
  | _ => none

def quotedText : Word → List Char
  | [] => []
  | .plain cs :: ps => cs ++ quotedText ps
  | .quoted cs :: ps => cs ++ quotedText ps
  | _ :: ps => quotedText ps

def joinPlain : Word → Word
  | [] => []
  | .plain cs :: ps =>
    match joinPlain ps with
    | .plain ds :: qs => .plain (cs ++ ds) :: qs
    | qs => .plain cs :: qs
  | p :: ps => p :: joinPlain ps

def isNameStart (c : Char) : Bool := c.isAlpha || c = '_'

def isNameRest (c : Char) : Bool := c.isAlphanum || c = '_'

def isName (cs : List Char) : Bool := cs.head?.any isNameStart && cs.all isNameRest

def assignment? : Word → Option (String × Word)
  | .plain cs :: ps =>
    let name := cs.takeWhile isNameRest
    match cs.drop name.length with
    | '=' :: rest =>
      if isName name then some (.ofList name, if rest = [] then ps else .plain rest :: ps) else none
    | _ => none
  | _ => none

def isSpecialCommand (name : String) : Bool :=
  name ∈ [":", "break", "continue", "eval", "exec", "exit", "export", "local", "readonly", "return",
    "set", "shift", "times", "trap", "unset", "."]

end Mender.Machine.Shell
