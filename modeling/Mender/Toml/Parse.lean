import Mender.Toml.Value

namespace Mender.Toml

/-- A reader of part of a document; `none` stands for a malformed document. -/
abbrev Scan := StateT (List Char) Option

namespace Scan

def fail {α : Type} : Scan α := fun _ => none

def peek? : Scan (Option Char) := return (← get).head?

def bump : Scan Unit := modify List.tail

def next : Scan Char := do
  match ← get with
  | c :: cs => set cs; return c
  | [] => fail

def expect (c : Char) : Scan Unit := do if (← next) = c then return () else fail

def accept (text : String) : Scan Bool := do
  let cs ← get
  if text.toList.isPrefixOf cs then
    set (cs.drop text.toList.length)
    return true
  else return false

def span (p : Char → Bool) : Scan (List Char) := do
  let cs ← get
  set (cs.dropWhile p)
  return cs.takeWhile p

def space : Scan Unit := do let _ ← span fun c => c = ' ' || c = '\t'

def newline : Scan Unit := do
  if ← accept "\n" then return ()
  else if ← accept "\r\n" then return ()
  else fail

end Scan

open Scan

def isPlain (c : Char) : Bool := c = '\t' || (0x20 ≤ c.toNat && c.toNat ≠ 0x7F)

def comment : Scan Unit := do
  if (← peek?) = some '#' then
    let _ ← span isPlain

def lineEnd : Scan Unit := do
  space
  comment
  if (← get) = [] then return () else newline

def blanks : Nat → Scan Unit
  | 0 => return ()
  | fuel + 1 => do
    space
    match ← peek? with
    | some '#' =>
      comment
      if (← get) = [] then return () else
        newline
        blanks fuel
    | some '\n' => newline; blanks fuel
    | some '\r' => newline; blanks fuel
    | _ => return ()

def isHex (c : Char) : Bool := c.isDigit || ('a' ≤ c && c ≤ 'f') || ('A' ≤ c && c ≤ 'F')

def digitValue (c : Char) : Nat :=
  if c.isDigit then c.toNat - 48 else if c.toNat < 97 then c.toNat - 55 else c.toNat - 87

def valueOf (base : Nat) (cs : List Char) : Nat := cs.foldl (fun n c => base * n + digitValue c) 0

def scalar (width : Nat) : Scan Char := do
  let cs ← get
  let ds := cs.take width
  let n := valueOf 16 ds
  if ds.length = width ∧ ds.all isHex ∧ n.isValidChar then
    set (cs.drop width)
    return Char.ofNat n
  else fail

def escaped : Scan Char := do
  match ← next with
  | 'b' => return '\x08'
  | 't' => return '\t'
  | 'n' => return '\n'
  | 'f' => return '\x0c'
  | 'r' => return '\r'
  | '"' => return '"'
  | '\\' => return '\\'
  | 'u' => scalar 4
  | 'U' => scalar 8
  | _ => fail

def basicRest : Nat → List Char → Scan String
  | 0, _ => fail
  | fuel + 1, seen => do
    match ← next with
    | '"' => return .ofList seen.reverse
    | '\\' => let c ← escaped; basicRest fuel (c :: seen)
    | c => if isPlain c then basicRest fuel (c :: seen) else fail

def literalRest : Scan String := do
  let cs ← span fun c => isPlain c && c ≠ '\''
  expect '\''
  return .ofList cs

def closing? (quote : Char) : Scan (Option (List Char)) := do
  let cs ← get
  let n := (cs.takeWhile (· = quote)).length
  if n < 3 then return none
  else if n ≤ 5 then
    set (cs.drop n)
    return some (.replicate (n - 3) quote)
  else fail

def pastBlankLines : List Char → List Char
  | ' ' :: cs => pastBlankLines cs
  | '\t' :: cs => pastBlankLines cs
  | '\n' :: cs => pastBlankLines cs
  | '\r' :: '\n' :: cs => pastBlankLines cs
  | cs => cs

/-- A backslash at the end of a line passes over all blanks and newlines that follow. -/
def lineEscape (cs : List Char) : Option (List Char) :=
  match cs.dropWhile fun c => c = ' ' || c = '\t' with
  | '\n' :: rest => some (pastBlankLines rest)
  | '\r' :: '\n' :: rest => some (pastBlankLines rest)
  | _ => none

def multiBasicRest : Nat → List Char → Scan String
  | 0, _ => fail
  | fuel + 1, seen => do
    match ← closing? '"' with
    | some quotes => return .ofList (quotes ++ seen).reverse
    | none =>
      match ← next with
      | '\\' =>
        match lineEscape (← get) with
        | some rest => set rest; multiBasicRest fuel seen
        | none => let c ← escaped; multiBasicRest fuel (c :: seen)
      | '\n' => multiBasicRest fuel ('\n' :: seen)
      | '\r' => expect '\n'; multiBasicRest fuel ('\n' :: seen)
      | c => if isPlain c then multiBasicRest fuel (c :: seen) else fail

def multiLiteralRest : Nat → List Char → Scan String
  | 0, _ => fail
  | fuel + 1, seen => do
    match ← closing? '\'' with
    | some quotes => return .ofList (quotes ++ seen).reverse
    | none =>
      match ← next with
      | '\n' => multiLiteralRest fuel ('\n' :: seen)
      | '\r' => expect '\n'; multiLiteralRest fuel ('\n' :: seen)
      | c => if isPlain c then multiLiteralRest fuel (c :: seen) else fail

def dropFirstNewline : Scan Unit := do
  if ← accept "\n" then return ()
  let _ ← accept "\r\n"

def text : Scan String := do
  let fuel := (← get).length + 1
  if ← accept "\"\"\"" then
    dropFirstNewline
    multiBasicRest fuel []
  else if ← accept "'''" then
    dropFirstNewline
    multiLiteralRest fuel []
  else if ← accept "\"" then basicRest fuel []
  else
    expect '\''
    literalRest

def isBare (c : Char) : Bool := c.isAlphanum || c = '_' || c = '-'

def simpleKey : Scan String := do
  let fuel := (← get).length + 1
  match ← peek? with
  | some '"' => bump; basicRest fuel []
  | some '\'' => bump; literalRest
  | _ =>
    match ← span isBare with
    | [] => fail
    | cs => return .ofList cs

/-- How deep values may nest, and how many parts a key may have. -/
def depthLimit : Nat := 79

def keyParts : Nat → Scan (List String)
  | 0 => fail
  | fuel + 1 => do
    space
    let k ← simpleKey
    space
    if ← accept "." then return k :: (← keyParts fuel) else return [k]

def key : Scan (List String × String) := do
  let ks ← keyParts depthLimit
  match ks.getLast? with
  | some k => return (ks.dropLast, k)
  | none => fail

def digitGroups (p : Char → Bool) : Nat → List Char → Option (List Char × List Char)
  | 0, _ => none
  | fuel + 1, cs =>
    let ds := cs.takeWhile p
    if ds = [] then none
    else match cs.drop ds.length with
      | '_' :: rest => (digitGroups p fuel rest).map fun (more, rest) => (ds ++ more, rest)
      | rest => some (ds, rest)

def digits (p : Char → Bool) : Scan (List Char) := do
  let cs ← get
  match digitGroups p (cs.length + 1) cs with
  | some (ds, rest) => set rest; return ds
  | none => fail

/-- Whether a number with these digits, times a power of ten, is beyond every finite double. -/
def overflows (ds : List Char) (exponent : Int) : Bool :=
  let n := valueOf 10 ds
  let limit := Nat.pow 2 1024 - Nat.pow 2 970
  let size : Int := (Nat.toDigits 10 n).length + exponent
  if n = 0 || size < 300 then false
  else if 400 < size then true
  else if 0 ≤ exponent then limit ≤ n * Nat.pow 10 exponent.toNat
  else limit * Nat.pow 10 (-exponent).toNat ≤ n

def sign : Scan (Option Bool) := do
  if ← accept "+" then return some false
  else if ← accept "-" then return some true
  else return none

def decimalDigits : Scan (List Char) := do
  let ds ← digits Char.isDigit
  if 1 < ds.length ∧ ds.head? = some '0' then fail
  return ds

def inRange (n : Int) : Scan Value :=
  if -0x8000000000000000 ≤ n ∧ n < 0x8000000000000000 then return .integer n else fail

def decimal : Scan Value := do
  let negative := (← sign) = some true
  if (← accept "inf") then return .float
  if (← accept "nan") then return .float
  let whole ← decimalDigits
  let fraction ← if ← accept "." then some <$> digits Char.isDigit else pure none
  let exponent ← match ← peek? with
    | some 'e' | some 'E' =>
      bump
      let negative := (← sign) = some true
      let e : Int := valueOf 10 (← digits Char.isDigit)
      pure (some (if negative then -e else e))
    | _ => pure none
  if fraction = none ∧ exponent = none then
    let n : Int := valueOf 10 whole
    inRange (if negative then -n else n)
  else
    let fraction := fraction.getD []
    if !negative ∧ overflows (whole ++ fraction) (exponent.getD 0 - fraction.length) then fail
    return .float

def based (base : Nat) (p : Char → Bool) : Scan Value := do
  bump
  bump
  inRange (valueOf base (← digits p))

def fixedDigits (width : Nat) : Scan Nat := do
  let cs ← get
  let ds := cs.take width
  if ds.length = width ∧ ds.all Char.isDigit then
    set (cs.drop width)
    return valueOf 10 ds
  else fail

def daysIn (year month : Nat) : Nat :=
  let leap := year % 4 = 0 ∧ (year % 100 ≠ 0 ∨ year % 400 = 0)
  if month = 2 then if leap then 29 else 28
  else if month ∈ [4, 6, 9, 11] then 30 else 31

def date : Scan Unit := do
  let year ← fixedDigits 4
  expect '-'
  let month ← fixedDigits 2
  expect '-'
  let day ← fixedDigits 2
  if month = 0 ∨ 12 < month ∨ day = 0 ∨ daysIn year month < day then fail

def time : Scan Unit := do
  let hour ← fixedDigits 2
  expect ':'
  let minute ← fixedDigits 2
  expect ':'
  let second ← fixedDigits 2
  if 23 < hour ∨ 59 < minute ∨ 60 < second then fail
  if ← accept "." then
    if (← span Char.isDigit) = [] then fail

def offset : Scan Unit := do
  match ← peek? with
  | some 'Z' | some 'z' => bump
  | some '+' | some '-' =>
    bump
    let hour ← fixedDigits 2
    expect ':'
    let minute ← fixedDigits 2
    if 23 < hour ∨ 59 < minute then fail
  | _ => return ()

def moment : Scan Value := do
  let cs ← get
  if cs[2]? = some ':' then
    time
    return .moment
  date
  match ← get with
  | c :: d :: e :: ':' :: _ =>
    if (c = 'T' ∨ c = 't' ∨ c = ' ') ∧ d.isDigit ∧ e.isDigit then
      bump
      time
      offset
  | _ => pure ()
  return .moment

def number : Scan Value := do
  let cs ← get
  if (cs.take 4).all Char.isDigit ∧ cs[4]? = some '-' then moment
  else if (cs.take 2).all Char.isDigit ∧ cs[2]? = some ':' then moment
  else match cs with
    | '0' :: 'x' :: _ => based 16 isHex
    | '0' :: 'o' :: _ => based 8 fun c => '0' ≤ c && c ≤ '7'
    | '0' :: 'b' :: _ => based 2 fun c => c = '0' || c = '1'
    | _ => decimal

mutual

def value : Nat → Nat → Scan Value
  | 0, _ => fail
  | fuel + 1, levels => do
    match ← peek? with
    | some '"' => return .text (← text)
    | some '\'' => return .text (← text)
    | some '[' =>
      bump
      match levels with
      | 0 => fail
      | levels + 1 => return .array (← items fuel levels)
    | some '\x7b' =>
      bump
      match levels with
      | 0 => fail
      | levels + 1 =>
        space
        if ← accept "\x7d" then return .table .inline []
        return .table .inline (← pairs fuel levels [])
    | some 't' => if ← accept "true" then return .boolean true else fail
    | some 'f' => if ← accept "false" then return .boolean false else fail
    | some _ => number
    | none => fail

def items : Nat → Nat → Scan (List Value)
  | 0, _ => fail
  | fuel + 1, levels => do
    blanks ((← get).length + 1)
    if ← accept "]" then return []
    let v ← value fuel levels
    blanks ((← get).length + 1)
    if ← accept "," then return v :: (← items fuel levels)
    expect ']'
    return [v]

def pairs : Nat → Nat → Fields → Scan Fields
  | 0, _, _ => fail
  | fuel + 1, levels, fs => do
    let (path, k) ← key
    expect '='
    space
    let v ← value fuel levels
    match Fields.insert k v path fs with
    | none => fail
    | some fs =>
      space
      if ← accept "," then pairs fuel levels fs
      else
        expect '\x7d'
        return fs

end

def statement : Scan Statement := do
  if ← accept "[[" then
    let (path, k) ← key
    if ← accept "]]" then
      lineEnd
      return .arrayHeader path k
    else fail
  else if ← accept "[" then
    let (path, k) ← key
    expect ']'
    lineEnd
    return .header path k
  else
    let (path, k) ← key
    expect '='
    space
    let v ← value ((← get).length + 1) depthLimit
    lineEnd
    return .pair path k v

def statements : Nat → Scan (List Statement)
  | 0 => fail
  | fuel + 1 => do
    blanks ((← get).length + 1)
    if (← get) = [] then return []
    let s ← statement
    return s :: (← statements fuel)

def parse? (document : String) : Option Fields := do
  let cs := match document.toList with
    | '\ufeff' :: cs => cs
    | cs => cs
  let (ss, _) ← (statements (cs.length + 1)).run cs
  assemble [] [] ss

end Mender.Toml
