namespace Mender.Machine.Tool

def isPrintable (c : Char) : Bool := ' ' ≤ c && c ≤ '~'

def escapeText (c : Char) : List Char :=
  match c with
  | '\x07' => ['a']
  | '\x08' => ['b']
  | '\x0c' => ['f']
  | '\n' => ['n']
  | '\r' => ['r']
  | '\t' => ['t']
  | '\x0b' => ['v']
  | c =>
    let digit (n : Nat) : Char := Char.ofNat (48 + n % 8)
    [digit (c.toNat / 64), digit (c.toNat / 8), digit c.toNat]

def quoted (s : String) : String :=
  let shown (c : Char) : List Char :=
    if c = '\'' ∨ c = '\\' then ['\\', c]
    else if isPrintable c then [c]
    else '\\' :: escapeText c
  "'" ++ .ofList (s.toList.flatMap shown) ++ "'"

def shellInside (escaped : Bool) : List Char → List Char
  | [] => []
  | c :: cs =>
    if c = '\'' then (if escaped then "''".toList else []) ++ "'\\''".toList ++ shellInside false cs
    else if isPrintable c then
      (if escaped then "''".toList else []) ++ c :: shellInside false cs
    else (if escaped then [] else "'$'".toList) ++ '\\' :: escapeText c ++ shellInside true cs

/-- Characters for which double quotes do not do what single quotes do. -/
def isDoubleSpecial (c : Char) : Bool := c ∈ "!\"$&()*;<=>[^\x60|?\\\x7b\x7d".toList || !isPrintable c

def shellQuoted (s : String) : String :=
  let cs := s.toList
  let braces := cs = ['\x7b'] || cs = ['\x7d']
  if '\'' ∈ cs ∧ cs.all (fun c => !isDoubleSpecial c) ∧ !braces then "\"" ++ s ++ "\""
  else "'" ++ .ofList (shellInside false cs) ++ "'"

/-- Whether a text is no plain word of the shell, where a colon may have to be quoted too. -/
def needsQuotes (colon : Bool) (s : String) : Bool :=
  match s.toList with
  | [] => true
  | ['\x7b'] => true
  | ['\x7d'] => true
  | c :: cs =>
    let special (c : Char) : Bool :=
      c ∈ "!\"$&()*;<=>[^\x60|? '".toList || !isPrintable c || (colon && c = ':')
    c = '#' || c = '~' || special c || cs.any special

def shellWord (colon : Bool) (s : String) : String :=
  if needsQuotes colon s then shellQuoted s else s

end Mender.Machine.Tool
