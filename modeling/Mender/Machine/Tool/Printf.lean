import Mender.Machine.Tool.Basic
import Mender.Machine.Tool.Escape
import Mender.Machine.Tool.Format
import Mender.Machine.Tool.Quote

namespace Mender.Machine.Tool

inductive PrintfFault where
  | missing
  | noHexadecimal
  | badCharacter (letter : Char) (size n : Nat)
  | badWidth (text : String)
  | badPrecision (text : String)
  | badDirective (text : String)
  deriving DecidableEq, Repr, Inhabited

def PrintfFault.message : PrintfFault → String
  | missing => "missing operand"
  | noHexadecimal => "missing hexadecimal number in escape"
  | badCharacter letter size n =>
    "invalid universal character name \\" ++
      .ofList (letter :: padLeft size '0' (Nat.toDigits 16 n))
  | badWidth text => s!"invalid field width: {quoted text}"
  | badPrecision text => s!"invalid precision: {quoted text}"
  | badDirective text => s!"{text}: invalid conversion specification"

abbrev Ending := Option PrintfFault

/-- A character by its number; those beyond the plain ones are spelt out. -/
def characterText (letter : Char) (size n : Nat) : Except PrintfFault (List Char) :=
  if 0xd800 ≤ n ∧ n ≤ 0xdfff then .error (.badCharacter letter size n)
  else if n < 0x80 then .ok [Char.ofNat n]
  else
    let ds := (Nat.toDigits 16 n).map Char.toUpper
    .ok (if n ≤ 0xffff then '\\' :: 'u' :: padLeft 4 '0' ds else '\\' :: 'U' :: padLeft 8 '0' ds)

def printfEscape (zero : Bool) (cs : List Char) : Except Ending (List Char × List Char) :=
  let numbered (letter : Char) (size : Nat) (cs : List Char) :
      Except Ending (List Char × List Char) :=
    let ds := (cs.take size).takeWhile (isDigitIn 16)
    if ds.length < size then .error (some .noHexadecimal)
    else match characterText letter size (numberIn 16 ds) with
      | .ok text => .ok (text, cs.drop size)
      | .error f => .error (some f)
  match cs with
  | 'c' :: _ => .error none
  | '"' :: cs => .ok (['"'], cs)
  | 'x' :: cs =>
    match (cs.take 2).takeWhile (isDigitIn 16) with
    | [] => .error (some .noHexadecimal)
    | ds => .ok ([Char.ofNat (numberIn 16 ds)], cs.drop ds.length)
  | 'u' :: cs => numbered 'u' 4 cs
  | 'U' :: cs => numbered 'U' 8 cs
  | '0' :: cs =>
    if zero then
      let ds := (cs.take 3).takeWhile isOctal
      .ok ([octalByte ds], cs.drop ds.length)
    else
      let (c, rest) := escapeInFront false ('0' :: cs)
      .ok ([c], rest)
  | cs =>
    let (c, rest) := escapeInFront false cs
    .ok ([c], rest)

def printfText : Nat → List Char → List Char × Option Ending
  | 0, _ => ([], none)
  | _ + 1, [] => ([], none)
  | fuel + 1, '\\' :: cs =>
    match printfEscape true cs with
    | .error e => ([], some e)
    | .ok (text, rest) =>
      let (later, ending) := printfText fuel rest
      (text ++ later, ending)
  | fuel + 1, c :: cs =>
    let (later, ending) := printfText fuel cs
    (c :: later, ending)

inductive Piece where
  | text (cs : List Char)
  | stop (e : Ending)
  | escaped
  | word
  /-- An argument as a directive says; without a letter, only its width and precision are read. -/
  | value (d : Directive) (letter : Option Char)
  deriving Inhabited

def ruledOut (flag : Char) : List Char :=
  if flag = '\'' ∨ flag = 'I' then "aAceEosxX".toList
  else if flag = '#' then "cdisu".toList
  else if flag = '0' then "cs".toList
  else []

def isAllowed (d : Directive) (letter : Char) : Bool :=
  letter ∈ "aAcdeEfFgGiosuxX".toList && !(d.flags.any (letter ∈ ruledOut ·)) &&
    !(letter = 'c' && d.precision.isSome)

def piecesOf : Nat → List Char → List Piece
  | 0, _ => []
  | _ + 1, [] => []
  | fuel + 1, '%' :: '%' :: cs => .text ['%'] :: piecesOf fuel cs
  | fuel + 1, '%' :: 'b' :: cs => .escaped :: piecesOf fuel cs
  | fuel + 1, '%' :: 'q' :: cs => .word :: piecesOf fuel cs
  | fuel + 1, '%' :: cs =>
    let (d, rest) := directiveInFront "I'-+ #0".toList cs
    let rest := rest.dropWhile (· ∈ "lLhjtz".toList)
    let bad (n : Nat) : List Piece :=
      [.value d none, .stop (some (.badDirective (.ofList ('%' :: cs.take n))))]
    match rest with
    | [] => bad cs.length
    | letter :: rest =>
      if isAllowed d letter then .value d (some letter) :: piecesOf fuel rest
      else bad (cs.length - rest.length)
  | fuel + 1, '\\' :: cs =>
    match printfEscape false cs with
    | .error e => [.stop e]
    | .ok (text, rest) => .text text :: piecesOf fuel rest
  | fuel + 1, c :: cs =>
    let text := c :: cs.takeWhile fun d => d ≠ '%' && d ≠ '\\'
    .text text :: piecesOf fuel (cs.drop (text.length - 1))

structure Printing where
  arguments : List String
  chunks : List Chunk := []
  status : Nat := 0

abbrev Printer := ExceptT Ending (StateM Printing)

namespace Printer

def put (cs : List Char) : Printer Unit :=
  modify fun s => { s with chunks := .out (.ofList cs) :: s.chunks }

def warn (c : Call) (text : String) : Printer Unit :=
  modify fun s => { s with chunks := c.told text :: s.chunks }

def complain (c : Call) (text : String) : Printer Unit := do
  warn c text
  modify fun s => { s with status := 1 }

def next? : Printer (Option String) := do
  let s ← get
  set { s with arguments := s.arguments.tail }
  return s.arguments.head?

def numeric {α : Type} (c : Call) (s : String) (ofChar : Nat → α) (zero : α)
    (read : List Char → Option (α × List Char × Bool)) : Printer α := do
  let plain : Printer α := do
    let told (text : String) : Printer Unit := complain c s!"{quoted s}{text}"
    match read s.toList with
    | none =>
      if s ≠ "" then told ": expected a numeric value"
      return zero
    | some (x, rest, lost) =>
      if lost then told ": Numerical result out of range"
      else if rest ≠ [] then told ": value not completely converted"
      return x
  match s.toList with
  | q :: d :: rest =>
    if q = '"' ∨ q = '\'' then
      if rest ≠ [] then
        let ignored := "character(s) following character constant have been ignored"
        warn c s!"warning: {String.ofList rest}: {ignored}"
      return ofChar d.toNat
    else plain
  | _ => plain

def signed (c : Call) (s : String) : Printer Int :=
  numeric c s (·) 0 fun cs => (numberInFront? none cs).map fun (n, rest) =>
    (clamp n, rest, clamp n ≠ n)

def unsigned (c : Call) (s : String) : Printer Nat :=
  numeric c s id 0 fun cs => (numberInFront? none cs).map fun (n, rest) =>
    if wordCount ≤ n.natAbs then (wordCount - 1, rest, true)
    else ((n % wordCount).toNat, rest, false)

def real (c : Call) (s : String) : Printer Real :=
  numeric c s (.ofInt ·) (.ofInt 0) fun cs => (realInFront? .extended cs).map fun r =>
    (r.value, r.rest, r.outOfRange)

def extentMost : Int := 2147483647

def extent (c : Call) (least : Int) (fault : String → PrintfFault) : Printer Int := do
  match ← next? with
  | none => return 0
  | some s =>
    let n ← signed c s
    if least ≤ n ∧ n ≤ extentMost then return n
    else if n < 0 ∧ least = 0 then return -1
    else throw (some (fault s))

def value (c : Call) (d : Directive) (letter : Option Char) : Printer Unit := do
  let width ← if d.width = .asked then extent c (-extentMost - 1) .badWidth else pure 0
  let precision ← if d.precision = some .asked then extent c 0 .badPrecision else pure 0
  let some letter := letter | return ()
  let conversion := d.conversion letter width precision
  let s := (← next?).getD ""
  match letter with
  | 's' => put (conversion.text s.toList)
  | 'c' => put (conversion.pad [s.toList.headD '\x00'])
  | 'd' | 'i' => put (conversion.integer (← signed c s))
  | 'o' | 'u' | 'x' | 'X' => put (conversion.natural (← unsigned c s))
  | _ => put (conversion.real .extended 4 (← real c s))

def piece (c : Call) : Piece → Printer Unit
  | .text cs => put cs
  | .stop e => throw e
  | .escaped => do
    let s := (← next?).getD ""
    let (text, ending) := printfText (s.length + 1) s.toList
    put text
    if let some e := ending then throw e
  | .word => do
    if let some s ← next? then put (shellWord false s).toList
  | .value d letter => value c d letter

def all (c : Call) (pieces : List Piece) : Nat → Printer Unit
  | 0 => return ()
  | fuel + 1 => do
    let before := (← get).arguments.length
    pieces.forM (piece c)
    match (← get).arguments with
    | [] => return ()
    | s :: rest =>
      if rest.length + 1 = before then
        warn c s!"warning: ignoring excess arguments, starting with {quoted s}"
      else all c pieces fuel

end Printer

def printf : Tool := fun c =>
  let arguments := match c.arguments with
    | "--" :: rest => rest
    | rest => rest
  match arguments with
  | [] => c.misused PrintfFault.missing.message
  | format :: arguments =>
    let pieces := piecesOf (format.length + 1) format.toList
    let (result, s) := (Printer.all c pieces (arguments.length + 1)).run { arguments }
    match result with
    | .ok _ => c.answer s.status s.chunks.reverse
    | .error none => c.answer 0 s.chunks.reverse
    | .error (some f) => c.answer 1 (c.told f.message :: s.chunks).reverse

end Mender.Machine.Tool
