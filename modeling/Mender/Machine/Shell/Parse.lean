import Mender.Machine.Shell.Syntax

/-!
Reading shell scripts. A script is read by one complete command at a time, because what has been
carried out may change how the rest is read. Each step spends fuel, of which there is more than any
script needs.
-/

namespace Mender.Machine.Shell

inductive Token where
  | endOfFile
  | newline
  | redirection
  | word
  | semicolon
  | background
  | andIf
  | orIf
  | pipe
  | opening
  | closing
  | endOfChoice
  | reserved (word : String)
  deriving DecidableEq, Repr, Inhabited

def Token.shown : Token → String
  | endOfFile => "end of file"
  | newline => "newline"
  | redirection => "redirection"
  | word => "word"
  | semicolon => "\";\""
  | background => "\"&\""
  | andIf => "\"&&\""
  | orIf => "\"||\""
  | pipe => "\"|\""
  | opening => "\"(\""
  | closing => "\")\""
  | endOfChoice => "\";;\""
  | reserved w => "\"" ++ w ++ "\""

def reservedWords : List String :=
  ["!", "case", "do", "done", "elif", "else", "esac", "fi", "for", "if", "in", "then", "until",
    "while", "\x7b", "\x7d"]

def Token.endsList : Token → Bool
  | endOfFile | closing | endOfChoice => true
  | reserved w => w ∈ ["do", "done", "elif", "else", "esac", "fi", "then", "\x7d"]
  | _ => false

inductive SyntaxCause where
  | unexpected (token : Token) (wanted : Option Token)
  | unterminatedQuote
  | openBackquote
  | openBrace
  | openArithmetic
  | badLoopVariable
  | badFunctionName
  deriving DecidableEq, Repr, Inhabited

def SyntaxCause.message : SyntaxCause → String
  | unexpected token none => s!"{token.shown} unexpected"
  | unexpected token (some wanted) => s!"{token.shown} unexpected (expecting {wanted.shown})"
  | unterminatedQuote => "Unterminated quoted string"
  | openBackquote => "EOF in backquote substitution"
  | openBrace => "Missing '\x7d'"
  | openArithmetic => "Missing '))'"
  | badLoopVariable => "Bad for loop variable"
  | badFunctionName => "Bad function name"

structure SyntaxFault where
  line : Nat
  cause : SyntaxCause
  deriving DecidableEq, Repr, Inhabited

def SyntaxFault.message (f : SyntaxFault) : String := "Syntax error: " ++ f.cause.message

structure PendingDocument where
  index : Nat
  stop : List Char
  stripped : Bool
  literal : Bool

structure OpenAlias where
  name : String
  behind : Nat
  /-- Whether the next word may be an alias too. -/
  goesOn : Bool

structure Wanted where
  reserved : Bool := false
  aliases : Bool := false
  skipsNewlines : Bool := false

def Wanted.command : Wanted := ⟨true, true, false⟩

def Wanted.commandBelow : Wanted := ⟨true, true, true⟩

structure Reading where
  rest : List Char
  line : Nat := 1
  token : Token := .newline
  again : Bool := false
  word : Word := []
  redirect : Redirect := .mk 0 .read []
  wanted : Wanted := {}
  pending : List PendingDocument := []
  documents : Array Word := #[]
  aliases : List (String × String) := []
  openAliases : List OpenAlias := []

abbrev Reader := StateT Reading (Except SyntaxFault)

namespace Reader

def rest : Reader (List Char) := return (← get).rest

def line : Reader Nat := return (← get).line

def fault {α : Type} (cause : SyntaxCause) : Reader α := do throw ⟨← line, cause⟩

def drop (n : Nat) : Reader Unit :=
  modify fun s => { s with rest := s.rest.drop n, line := s.line + (s.rest.take n).count '\n' }

def dropJoined : List Char → Nat → List Char × Nat
  | '\\' :: '\n' :: cs, n => dropJoined cs (n + 1)
  | cs, n => (cs, n)

def joined : Reader Unit :=
  modify fun s =>
    let (rest, n) := dropJoined s.rest 0
    { s with rest, line := s.line + n }

def peek? : Reader (Option Char) := do
  joined
  return (← rest).head?

def accept (c : Char) : Reader Bool := do
  if (← peek?) = some c then
    drop 1
    return true
  else return false

def next? : Reader (Option Char) := do
  let c ← peek?
  modify fun s => { s with rest := s.rest.drop 1 }
  return c

def span (p : Char → Bool) : Nat → Reader (List Char)
  | 0 => return []
  | fuel + 1 => do
    joined
    let cs := (← rest).takeWhile p
    if cs = [] then return []
    else
      drop cs.length
      return cs ++ (← span p fuel)

def putBack : Reader Unit := modify fun s => { s with again := true }

def want (w : Wanted) : Reader Unit := modify fun s => { s with wanted := w }

end Reader

open Reader

inductive Context where
  | word
  /-- The mark of a document, in which a dollar sign is a character. -/
  | mark
  | braces (quoted : Bool)
  | double (inBraces : Bool)
  | doubleMark
  | document (stop : List Char) (stripped : Bool)
  | arithmetic (depth : Nat)
  deriving DecidableEq, Repr, Inhabited

namespace Context

def isQuoted : Context → Bool
  | word | mark | braces false => false
  | _ => true

def inBraces : Context → Bool
  | braces _ | double true => true
  | _ => false

def isMark : Context → Bool
  | mark | doubleMark => true
  | _ => false

def isDocument : Context → Bool
  | document .. => true
  | _ => false

def wordEnds : List Char := " \t\n;&|()<>".toList

def isOrdinary (ctx : Context) (c : Char) : Bool :=
  c ∉ ['\\', '$', '\x60'] &&
    match ctx with
    | word | mark => c ∉ ['"', '\''] && c ∉ wordEnds
    | braces false => c ∉ ['"', '\'', '\x7d']
    | braces true => c ∉ ['"', '\x7d']
    | double _ | doubleMark => c ≠ '"'
    | document .. => c ≠ '\n'
    | arithmetic _ => c ∉ ['(', ')']

def text (ctx : Context) (cs : List Char) : Part := if ctx.isQuoted then .quoted cs else .plain cs

def escapes (ctx : Context) (c : Char) : Bool :=
  !ctx.isQuoted || c ∈ ['\\', '\x60', '$'] || (c = '"' && !ctx.isDocument) ||
    (c = '\x7d' && ctx.inBraces)

def openCause : Context → Option SyntaxCause
  | word | mark | document .. => none
  | braces false => some .openBrace
  | braces true | double _ | doubleMark => some .unterminatedQuote
  | arithmetic _ => some .openArithmetic

end Context

def isSpecialName (c : Char) : Bool := c ∈ "@*#?$!-".toList || c.isDigit

def fallbackOf (c : Char) : Option Fallback :=
  match c with
  | '-' => some .use
  | '=' => some .assign
  | '?' => some .fail
  | '+' => some .replace
  | _ => none

def backquoted (quoted : Bool) : List Char → Option (List Char × Nat)
  | [] => none
  | '\x60' :: _ => some ([], 1)
  | '\\' :: '\n' :: rest => (backquoted quoted rest).map fun (text, n) => (text, n + 2)
  | '\\' :: c :: rest =>
    (backquoted quoted rest).map fun (text, n) =>
      if c ∈ ['\\', '\x60', '$'] || (quoted && c = '"') then (c :: text, n + 2)
      else ('\\' :: c :: text, n + 2)
  | c :: rest => (backquoted quoted rest).map fun (text, n) => (c :: text, n + 1)

def stopsHere (stop rest : List Char) : Bool :=
  stop.isPrefixOf rest && ((rest.drop stop.length).head?.all (· = '\n'))

def sizeBefore? (stop : List Char) (stripped : Bool) (cs : List Char) : Option Nat :=
  let ends (n : Nat) : Bool :=
    let line := cs.drop n
    stopsHere stop (if stripped then line.dropWhile (· = '\t') else line)
  (List.range cs.length).map (· + 1) |>.find? fun n => cs[n - 1]? = some '\n' && ends n

def withinDocument (stop : List Char) (stripped : Bool) (read : Reader Part) : Reader Part := do
  let whole ← rest
  let size := sizeBefore? stop stripped whole
  let behind := (size.map whole.drop).getD []
  modify fun s => { s with rest := s.rest.take (size.getD whole.length) }
  let p ← try read catch f =>
    let line := f.line + min 1 (behind.count '\n')
    match f.cause with
    | .unterminatedQuote | .openBrace => throw ⟨line, .openBrace⟩
    | .openArithmetic | .openBackquote | .unexpected .endOfFile _ => throw ⟨line, f.cause⟩
    | _ => throw f
  modify fun s => { s with rest := s.rest ++ behind }
  return p

def literalLines (stop : List Char) (stripped : Bool) : Nat → Reader (List Char)
  | 0 => return []
  | fuel + 1 => do
    if stripped then drop ((← rest).takeWhile (· = '\t')).length
    let cs ← rest
    if stopsHere stop cs then
      drop (stop.length + 1)
      return []
    else
      let text := cs.takeWhile (· ≠ '\n')
      if text.length = cs.length then
        drop text.length
        return text
      else
        drop (text.length + 1)
        return text ++ '\n' :: (← literalLines stop stripped fuel)

def blanks : Nat → Reader Unit
  | 0 => return ()
  | fuel + 1 => do
    match ← peek? with
    | some ' ' | some '\t' =>
      drop 1
      blanks fuel
    | some '#' =>
      drop ((← rest).takeWhile (· ≠ '\n')).length
      blanks fuel
    | _ => return ()

def aliasText? (name : List Char) : Reader (Option String) := do
  let s ← get
  let name := String.ofList name
  let inside := s.openAliases.any fun a => a.name = name ∧ a.behind ≤ s.rest.length
  return if inside then none else s.aliases.lookup name

def openAlias (name : List Char) (text : String) : Reader Unit :=
  modify fun s => { s with
    rest := text.toList ++ s.rest
    openAliases := ⟨.ofList name, s.rest.length, text.endsWith " " || text.endsWith "\t"⟩ ::
      s.openAliases.filter fun a => a.behind ≤ s.rest.length }

def aliasEnded : Reader Bool := do
  let s ← get
  let (ended, inside) := s.openAliases.partition fun a => s.rest.length < a.behind
  set { s with openAliases := inside }
  return ended.any (·.goesOn)

def redirection (sign : Char) (descriptor : Option Nat) : Reader Redirect := do
  let made (default : Nat) (d : Direction) : Reader Redirect :=
    return .mk (descriptor.getD default) d []
  if sign = '>' then
    if ← accept '>' then made 1 .append
    else if ← accept '|' then made 1 .overwrite
    else if ← accept '&' then made 1 .share
    else made 1 .write
  else if ← accept '<' then
    let stripped ← accept '-'
    let s ← get
    let index := s.documents.size
    set { s with
      documents := s.documents.push []
      pending := s.pending ++ [PendingDocument.mk index [] stripped false] }
    made 0 (.document index)
  else if ← accept '&' then made 0 .share
  else if ← accept '>' then made 0 .readWrite
  else made 0 .read

def settleMark (mark : Word) : Reader Unit :=
  modify fun s => { s with
    pending := match s.pending.getLast? with
      | some d => s.pending.dropLast ++
          [{ d with stop := quotedText mark, literal := mark.any Part.isQuoting }]
      | none => [] }

def setRedirectTarget (w : Word) : Redirect → Redirect
  | .mk descriptor direction _ => .mk descriptor direction w

mutual

def parts : Nat → Context → Reader Word
  | 0, _ => fault .unterminatedQuote
  | fuel + 1, ctx => do
    let ordinary := (← rest).takeWhile ctx.isOrdinary
    let goOn (p : Part) : Reader Word := return p :: (← parts fuel ctx)
    if ordinary ≠ [] then
      drop ordinary.length
      goOn (ctx.text ordinary)
    else
      match ← rest with
      | [] =>
        match ctx.openCause with
        | some cause => fault cause
        | none => return []
      | '\\' :: '\n' :: _ =>
        drop 2
        parts fuel ctx
      | ['\\'] =>
        drop 1
        goOn (.quoted ['\\'])
      | '\\' :: c :: _ =>
        drop 2
        goOn (.quoted (if ctx.escapes c then [c] else ['\\', c]))
      | '$' :: _ =>
        drop 1
        if ctx.isMark then goOn (ctx.text ['$'])
        else
          let p ← match ctx, ← rest with
            | .document stop stripped, '\x7b' :: _
            | .document stop stripped, '(' :: '(' :: _ =>
              withinDocument stop stripped (dollar fuel ctx)
            | _, _ => dollar fuel ctx
          goOn p
      | '\x60' :: _ =>
        drop 1
        if ctx.isMark then goOn (.quoted ['\x60'])
        else
          let c ← backquote fuel ctx.isQuoted
          goOn (.output c ctx.isQuoted)
      | '"' :: _ =>
        drop 1
        match ctx with
        | .double _ | .doubleMark => return []
        | _ =>
          let inner ← parts fuel (if ctx = .mark then .doubleMark else .double ctx.inBraces)
          return .mark :: inner ++ .mark :: (← parts fuel ctx)
      | '\'' :: cs =>
        let text := cs.takeWhile (· ≠ '\'')
        if text.length = cs.length then
          drop (cs.length + 1)
          fault .unterminatedQuote
        drop (text.length + 2)
        return [.mark, .quoted text, .mark] ++ (← parts fuel ctx)
      | c :: _ =>
        match ctx with
        | .braces _ =>
          drop 1
          return []
        | .document stop stripped =>
          drop 1
          return .quoted ['\n'] :: (← documentLines fuel stop stripped)
        | .arithmetic depth =>
          drop 1
          if c = '(' then return .quoted ['('] :: (← parts fuel (.arithmetic (depth + 1)))
          else if depth ≠ 0 then return .quoted [')'] :: (← parts fuel (.arithmetic (depth - 1)))
          else if ← accept ')' then return []
          else goOn (.quoted [')'])
        | _ => return []

def documentLines : Nat → List Char → Bool → Reader Word
  | 0, _, _ => fault .unterminatedQuote
  | fuel + 1, stop, stripped => do
    joined
    if stripped then drop ((← rest).takeWhile (· = '\t')).length
    if stopsHere stop (← rest) then
      drop (stop.length + 1)
      return []
    else parts fuel (.document stop stripped)

def dollar : Nat → Context → Reader Part
  | 0, _ => fault .unterminatedQuote
  | fuel + 1, ctx => do
    let quoted := ctx.isQuoted
    match ← peek? with
    | some '(' =>
      drop 1
      if ← accept '(' then
        return .arithmetic (joinPlain (← parts fuel (.arithmetic 0))) quoted
      else
        let c ← substitution fuel
        return .output c quoted
    | some '\x7b' =>
      drop 1
      braces fuel ctx
    | some c =>
      if isNameStart c then
        return .parameter (.ofList (← span isNameRest (← rest).length)) quoted
      else if isSpecialName c then
        drop 1
        return .parameter (.singleton c) quoted
      else return ctx.text ['$']
    | none => return ctx.text ['$']

def substitution : Nat → Reader Command
  | 0 => fault .unterminatedQuote
  | fuel + 1 => do
    let outer := (← get).pending
    modify fun s => { s with pending := [], again := false }
    let c ← commands fuel false true
    expect fuel .closing
    let s ← get
    set { s with rest := [] }
    documents fuel
    modify fun t => { t with rest := s.rest, line := s.line, pending := outer }
    return c

def backquote : Nat → Bool → Reader Command
  | 0, _ => fault .unterminatedQuote
  | fuel + 1, quoted => do
    let s ← get
    match backquoted quoted s.rest with
    | none =>
      drop s.rest.length
      fault .openBackquote
    | some (text, n) =>
      drop n
      let outer ← get
      set { outer with rest := text, line := 1, pending := [], openAliases := [], again := false }
      let c ← commands fuel false true
      modify fun inner => { outer with documents := inner.documents }
      return c

def braces : Nat → Context → Reader Part
  | 0, _ => fault .openBrace
  | fuel + 1, ctx => do
    let quoted := ctx.isQuoted
    let malformed : Reader Part := do
      let _ ← parts fuel (.braces quoted)
      return .malformed
    let counted (name : String) : Reader Part := do
      if (← peek?) = some '\x7d' then
        drop 1
        return .length name quoted
      else malformed
    let named (c : Char) : Reader (List Char) := do
      let size := (← rest).length
      if isNameStart c then span isNameRest size else span Char.isDigit size
    match ← peek? with
    | none => malformed
    | some '\x7d' => malformed
    | some '#' =>
      drop 1
      match ← peek? with
      | none => malformed
      | some c =>
        if isNameRest c then counted (.ofList (← named c))
        else
          let _ ← next?
          if c ≠ '\x7d' ∧ (← peek?) = some '\x7d' then
            if isSpecialName c then counted (.singleton c) else malformed
          else operator fuel ctx "#" (some c)
    | some c =>
      if isNameRest c then
        let name := String.ofList (← named c)
        operator fuel ctx name (← next?)
      else
        let _ ← next?
        if isSpecialName c then operator fuel ctx (.singleton c) (← next?) else malformed

def operator : Nat → Context → String → Option Char → Reader Part
  | 0, _, _, _ => fault .openBrace
  | fuel + 1, ctx, name, c => do
    let quoted := ctx.isQuoted
    let withWord (orEmpty : Bool) (c : Option Char) : Reader Part := do
      let word := joinPlain (← parts fuel (.braces quoted))
      match c.bind fallbackOf with
      | some how => return .fallback name orEmpty how word quoted
      | none => return .malformed
    let trim (atEnd : Bool) (c : Char) : Reader Part := do
      let longest ← accept c
      let pattern := joinPlain (← parts fuel (.braces false))
      return .trimmed name atEnd longest pattern quoted
    match c with
    | some '\x7d' => return .parameter name quoted
    | some ':' =>
      let c ← next?
      withWord true c
    | some '%' => trim true '%'
    | some '#' => trim false '#'
    | c => withWord false c

def plainToken : Nat → Bool → Reader Token
  | 0, _ => fault .unterminatedQuote
  | fuel + 1, marks => do
    let s ← get
    if s.again then
      set { s with again := false }
      return s.token
    blanks ((← rest).length + 1)
    let found (t : Token) : Reader Token := do
      modify fun s => { s with token := t }
      return t
    let one (t : Token) : Reader Token := do
      drop 1
      found t
    let oneOrTwo (c : Char) (single double : Token) : Reader Token := do
      drop 1
      if ← accept c then found double else found single
    match ← peek? with
    | none => found .endOfFile
    | some '\n' => one .newline
    | some '&' => oneOrTwo '&' .background .andIf
    | some '|' => oneOrTwo '|' .pipe .orIf
    | some ';' => oneOrTwo ';' .semicolon .endOfChoice
    | some '(' => one .opening
    | some ')' => one .closing
    | some _ =>
      let word := joinPlain (← parts fuel (if marks then .mark else .word))
      let descriptor := match plainText? word with
        | some [] => some none
        | some [c] => if c.isDigit then some (some (c.toNat - 48)) else none
        | _ => none
      match ← peek?, descriptor with
      | some '<', some d =>
        drop 1
        let r ← redirection '<' d
        modify fun s => { s with redirect := r }
        found .redirection
      | some '>', some d =>
        drop 1
        let r ← redirection '>' d
        modify fun s => { s with redirect := r }
        found .redirection
      | _, _ =>
        modify fun s => { s with word }
        found .word

def tokenBelow : Nat → Bool → Reader Token
  | 0, _ => fault .unterminatedQuote
  | fuel + 1, skipsNewlines => do
    let t ← plainToken fuel false
    if t = .newline ∧ skipsNewlines then
      documents fuel
      tokenBelow fuel true
    else return t

def token : Nat → Reader Token
  | 0 => fault .unterminatedQuote
  | fuel + 1 => do
    let wanted := (← get).wanted
    want {}
    let t ← tokenBelow fuel wanted.skipsNewlines
    let goesOn ← aliasEnded
    want {}
    match t, plainText? (← get).word with
    | .word, some cs =>
      let name := String.ofList cs
      if wanted.reserved ∧ name ∈ reservedWords then
        modify fun s => { s with token := .reserved name }
        return .reserved name
      else if wanted.aliases ∨ goesOn then
        match ← aliasText? cs with
        | some text =>
          openAlias cs text
          want wanted
          token fuel
        | none => return t
      else return t
    | _, _ => return t

def documents : Nat → Reader Unit
  | 0 => return ()
  | fuel + 1 => do
    match (← get).pending with
    | [] => return ()
    | d :: ds =>
      modify fun s => { s with pending := ds }
      let text ← if d.literal then
          let cs ← literalLines d.stop d.stripped ((← rest).length + 1)
          pure [Part.quoted cs]
        else documentLines fuel d.stop d.stripped
      modify fun s => { s with documents := s.documents.setIfInBounds d.index text }
      documents fuel

def expect : Nat → Token → Reader Unit
  | 0, _ => fault .unterminatedQuote
  | fuel + 1, wanted => do
    let t ← token fuel
    if t ≠ wanted then fault (.unexpected t (some wanted))

/-- Commands up to the end of their list, which may be empty if `mayBeEmpty`. A complete command of
the script (`complete`) ends with its line. -/
def commands : Nat → Bool → Bool → Reader Command
  | 0, _, _ => fault .unterminatedQuote
  | fuel + 1, complete, mayBeEmpty => do
    want { Wanted.command with skipsNewlines := !complete }
    let t ← token fuel
    match t with
    | .newline =>
      documents fuel
      return .skip
    | .endOfFile =>
      documents fuel
      modify fun s => { s with again := true, token := .endOfFile }
      return .skip
    | _ =>
      putBack
      if mayBeEmpty ∧ !complete ∧ t.endsList then return .skip
      else
        let first ← andOr fuel
        furtherCommands fuel complete first

def furtherCommands : Nat → Bool → Command → Reader Command
  | 0, _, _ => fault .unterminatedQuote
  | fuel + 1, complete, first => do
    let goOn (c : Command) : Reader Command := do
      match ← commands fuel complete true with
      | .skip => return c
      | d => return .sequence c d
    let l ← line
    match ← token fuel with
    | .background =>
      goOn (match first with
        | .pipe cs _ => .pipe cs true
        | .redirected line c rs => .background line c rs
        | c => .background l c [])
    | .semicolon => goOn first
    | .newline =>
      if complete then
        documents fuel
        return first
      else
        putBack
        goOn first
    | .endOfFile =>
      documents fuel
      modify fun s => { s with again := true, token := .endOfFile }
      return first
    | t =>
      if complete then fault (.unexpected t none)
      else
        putBack
        return first

def andOr : Nat → Reader Command
  | 0 => fault .unterminatedQuote
  | fuel + 1 => do
    let first ← pipeline fuel
    furtherPipelines fuel first

def furtherPipelines : Nat → Command → Reader Command
  | 0, _ => fault .unterminatedQuote
  | fuel + 1, first => do
    match ← token fuel with
    | .andIf =>
      want .commandBelow
      let second ← pipeline fuel
      furtherPipelines fuel (.both first second)
    | .orIf =>
      want .commandBelow
      let second ← pipeline fuel
      furtherPipelines fuel (.either first second)
    | _ =>
      putBack
      return first

def pipeline : Nat → Reader Command
  | 0 => fault .unterminatedQuote
  | fuel + 1 => do
    let negated := (← token fuel) = .reserved "!"
    if negated then want .command else putBack
    let first ← command fuel
    let rest ← furtherStages fuel
    let c := if rest.isEmpty then first else .pipe (first :: rest) false
    return if negated then .negate c else c

def furtherStages : Nat → Reader (List Command)
  | 0 => fault .unterminatedQuote
  | fuel + 1 => do
    if (← token fuel) = .pipe then
      want .commandBelow
      let c ← command fuel
      return c :: (← furtherStages fuel)
    else
      putBack
      return []

def command : Nat → Reader Command
  | 0 => fault .unterminatedQuote
  | fuel + 1 => do
    let l ← line
    let closed (c : Command) (stop : String) : Reader Command := do
      expect fuel (.reserved stop)
      redirected fuel l c
    match ← token fuel with
    | .reserved "if" =>
      let c ← conditional fuel
      closed c "fi"
    | .reserved "while" =>
      let condition ← commands fuel false false
      expect fuel (.reserved "do")
      closed (.loop true condition (← commands fuel false false)) "done"
    | .reserved "until" =>
      let condition ← commands fuel false false
      expect fuel (.reserved "do")
      closed (.loop false condition (← commands fuel false false)) "done"
    | .reserved "for" =>
      let t ← token fuel
      let name := (plainText? (← get).word).filter fun cs => t = .word ∧ isName cs
      match name with
      | none => fault .badLoopVariable
      | some name =>
        let words ← loopWords fuel
        want .commandBelow
        expect fuel (.reserved "do")
        closed (.forEach l (.ofList name) words (← commands fuel false false)) "done"
    | .reserved "case" =>
      expect fuel .word
      let w := (← get).word
      want .commandBelow
      expect fuel (.reserved "in")
      redirected fuel l (.choose l w (← choices fuel))
    | .opening =>
      let c ← commands fuel false false
      expect fuel .closing
      redirected fuel l (.subshell l c [])
    | .reserved "\x7b" =>
      let c ← commands fuel false false
      closed c "\x7d"
    | .word | .redirection =>
      putBack
      let l ← line
      simple fuel l true [] [] []
    | t => fault (.unexpected t none)

def loopWords : Nat → Reader (List Word)
  | 0 => fault .unterminatedQuote
  | fuel + 1 => do
    want .commandBelow
    match ← token fuel with
    | .reserved "in" =>
      let ws ← plainWords fuel
      match (← get).token with
      | .newline => return ws
      | .semicolon => return ws
      | t => fault (.unexpected t none)
    | .semicolon => return [allArguments]
    | _ =>
      putBack
      return [allArguments]

def plainWords : Nat → Reader (List Word)
  | 0 => fault .unterminatedQuote
  | fuel + 1 => do
    if (← token fuel) = .word then
      let w := (← get).word
      return w :: (← plainWords fuel)
    else return []

def conditional : Nat → Reader Command
  | 0 => fault .unterminatedQuote
  | fuel + 1 => do
    let condition ← commands fuel false false
    expect fuel (.reserved "then")
    let yes ← commands fuel false false
    match ← token fuel with
    | .reserved "elif" => return .branch condition yes (some (← conditional fuel))
    | .reserved "else" => return .branch condition yes (some (← commands fuel false false))
    | _ =>
      putBack
      return .branch condition yes none

def choices : Nat → Reader (List (List Word × Command))
  | 0 => fault .unterminatedQuote
  | fuel + 1 => do
    want ⟨true, false, true⟩
    match ← token fuel with
    | .reserved "esac" => return []
    | t =>
      if t = .opening then let _ ← token fuel
      let ws ← patterns fuel
      match (← get).token with
      | .closing =>
        let c ← commands fuel false true
        want ⟨true, false, true⟩
        match ← token fuel with
        | .reserved "esac" => return [(ws, c)]
        | .endOfChoice => return (ws, c) :: (← choices fuel)
        | t => fault (.unexpected t (some .endOfChoice))
      | t => fault (.unexpected t (some .closing))

def patterns : Nat → Reader (List Word)
  | 0 => fault .unterminatedQuote
  | fuel + 1 => do
    let w := (← get).word
    if (← token fuel) = .pipe then
      let _ ← token fuel
      return w :: (← patterns fuel)
    else return [w]

def redirected : Nat → Nat → Command → Reader Command
  | 0, _, _ => fault .unterminatedQuote
  | fuel + 1, line, c => do
    want .command
    match ← redirects fuel, c with
    | [], c => return c
    | rs, .subshell line c _ => return .subshell line c rs
    | rs, c => return .redirected line c rs

def redirects : Nat → Reader (List Redirect)
  | 0 => fault .unterminatedQuote
  | fuel + 1 => do
    if (← token fuel) = .redirection then
      let r ← redirectTarget fuel
      return r :: (← redirects fuel)
    else
      putBack
      return []

def redirectTarget : Nat → Reader Redirect
  | 0 => fault .unterminatedQuote
  | fuel + 1 => do
    let r := (← get).redirect
    match r with
    | .mk _ (.document _) _ =>
      want {}
      let t ← plainToken fuel true
      if t ≠ .word then fault (.unexpected t none)
      settleMark (← get).word
      return r
    | _ =>
      let t ← token fuel
      if t ≠ .word then fault (.unexpected t none)
      return setRedirectTarget (← get).word r

/-- A simple command or the definition of a function; `front` tells whether no word has come yet
that is not an assignment. -/
def simple : Nat → Nat → Bool → List (String × Word) → List Word → List Redirect → Reader Command
  | 0, _, _, _, _, _ => fault .unterminatedQuote
  | fuel + 1, l, front, assignments, words, rs => do
    want { aliases := front }
    match ← token fuel with
    | .word =>
      let w := (← get).word
      match (if front then assignment? w else none) with
      | some a => simple fuel l true (assignments ++ [a]) words rs
      | none => simple fuel l false assignments (words ++ [w]) rs
    | .redirection =>
      let r ← redirectTarget fuel
      simple fuel l front assignments words (rs ++ [r])
    | .opening =>
      match assignments, words, rs with
      | [], [w], [] =>
        expect fuel .closing
        match (plainText? w).filter fun cs => isName cs && !isSpecialCommand (.ofList cs) with
        | none => fault .badFunctionName
        | some name =>
          want .commandBelow
          let l ← line
          let body ← command fuel
          return .define l (.ofList name) body
      | _, _, _ =>
        putBack
        return .simple l assignments words rs
    | _ =>
      putBack
      return .simple l assignments words rs

end

end Mender.Machine.Shell
