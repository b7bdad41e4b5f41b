namespace Mender.Shell

inductive Quoting where
  | apart
  | apartBackslash
  | bare
  | bareBackslash
  | single
  | double
  | doubleBackslash
  | comment
  deriving DecidableEq, Repr, Inhabited

def isSeparator (c : Char) : Bool := c = ' ' || c = '\t' || c = '\n'

/-- Reads words, `word` being the present one, last character first. -/
def splitFrom (state : Quoting) (word : List Char) : List Char → Option (List String)
  | [] =>
    let done (word : List Char) : Option (List String) := some [.ofList word.reverse]
    match state with
    | .apart | .comment => some []
    | .bare => done word
    | .apartBackslash | .bareBackslash => done ('\\' :: word)
    | .single | .double | .doubleBackslash => none
  | c :: cs =>
    match state with
    | .apart =>
      if isSeparator c then splitFrom .apart [] cs
      else if c = '\'' then splitFrom .single [] cs
      else if c = '"' then splitFrom .double [] cs
      else if c = '\\' then splitFrom .apartBackslash [] cs
      else if c = '#' then splitFrom .comment [] cs
      else splitFrom .bare [c] cs
    | .apartBackslash => if c = '\n' then splitFrom .apart [] cs else splitFrom .bare [c] cs
    | .bare =>
      if isSeparator c then (splitFrom .apart [] cs).map (String.ofList word.reverse :: ·)
      else if c = '\'' then splitFrom .single word cs
      else if c = '"' then splitFrom .double word cs
      else if c = '\\' then splitFrom .bareBackslash word cs
      else splitFrom .bare (c :: word) cs
    | .bareBackslash =>
      if c = '\n' then splitFrom .bare word cs else splitFrom .bare (c :: word) cs
    | .single => if c = '\'' then splitFrom .bare word cs else splitFrom .single (c :: word) cs
    | .double =>
      if c = '"' then splitFrom .bare word cs
      else if c = '\\' then splitFrom .doubleBackslash word cs
      else splitFrom .double (c :: word) cs
    | .doubleBackslash =>
      if c = '\n' then splitFrom .double word cs
      else if c ∈ ['$', '\x60', '"', '\\'] then splitFrom .double (c :: word) cs
      else splitFrom .double (c :: '\\' :: word) cs
    | .comment => if c = '\n' then splitFrom .apart [] cs else splitFrom .comment [] cs

def splitWords (line : String) : Option (List String) := splitFrom .apart [] line.toList

def special : List Char := "\n\t |&;<>()$\x60\\\"'*?[#~=%".toList

def quoteWord (word : String) : String :=
  if word = "" || word.toList.any (· ∈ special) then
    "'" ++ .ofList (word.toList.flatMap fun c => if c = '\'' then "'\\''".toList else [c]) ++ "'"
  else word

def joinWords (words : List String) : String := " ".intercalate (words.map quoteWord)

end Mender.Shell
