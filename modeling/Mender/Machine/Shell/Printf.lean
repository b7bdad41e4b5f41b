import Mender.Machine.Tool.Basic
import Mender.Machine.Tool.Escape
import Mender.Machine.Tool.Format

namespace Mender.Machine.Shell.Printf

open Tool

inductive Piece where
  | text (cs : List Char)
  | value (d : Directive) (letter : Char)
  | fault (d : Directive) (text : Option (List Char))
  deriving Inhabited

def piecesOf : Nat → List Char → List Piece
  | 0, _ => []
  | _ + 1, [] => []
  | fuel + 1, '%' :: '%' :: cs => .text ['%'] :: piecesOf fuel cs
  | fuel + 1, '%' :: cs =>
    let (d, rest) := directiveInFront "#-+ 0".toList cs
    match rest with
    | [] => [.fault d none]
    | letter :: rest =>
      if letter ∈ "bcsdiouxXaAeEfFgG".toList then .value d letter :: piecesOf fuel rest
      else [.fault d (some ('%' :: cs.take (cs.length - rest.length)))]
  | fuel + 1, '\\' :: cs =>
    let (c, rest) := escapeInFront false cs
    .text [c] :: piecesOf fuel rest
  | fuel + 1, c :: cs =>
    let text := c :: cs.takeWhile fun d => d ≠ '%' && d ≠ '\\'
    .text text :: piecesOf fuel (cs.drop (text.length - 1))

structure Printing where
  arguments : List String
  complaints : List String := []
  written : List (List Char) := []

abbrev Printer := ExceptT (Option String) (StateM Printing)

namespace Printer

def put (cs : List Char) : Printer Unit := modify fun s => { s with written := cs :: s.written }

def complain (text : String) : Printer Unit :=
  modify fun s => { s with complaints := text :: s.complaints }

def next? : Printer (Option String) := do
  let s ← get
  set { s with arguments := s.arguments.tail }
  return s.arguments.head?

def numeric {α : Type} (ofNat : Nat → α) (read : List Char → Option (α × List Char × Bool)) :
    Printer α := do
  let some s ← next? | return ofNat 0
  match s.toList with
  | [] => return ofNat 0
  | c :: cs =>
    if c = '"' ∨ c = '\'' then return ofNat ((cs.headD '\x00').toNat)
    match read s.toList with
    | none =>
      complain s!"{s}: expected numeric value"
      return ofNat 0
    | some (x, rest, lost) =>
      if rest ≠ [] then complain s!"{s}: not completely converted"
      else if lost then complain s!"{s}: Numerical result out of range"
      return x

def signed : Printer Int :=
  numeric (·) fun cs => (numberInFront? none cs).map fun (n, rest) => (clamp n, rest, clamp n ≠ n)

def unsigned : Printer Nat :=
  numeric id fun cs => (numberInFront? none cs).map fun (n, rest) =>
    if wordCount ≤ n.natAbs then (wordCount - 1, rest, true)
    else ((n % wordCount).toNat, rest, false)

def real : Printer Tool.Real :=
  numeric (.ofInt ·) fun cs => (realInFront? .double cs).map fun r => (r.value, r.rest, r.outOfRange)

def extent (e : Option Extent) : Printer Int := do
  match e with
  | some .asked => return (← signed).bmod 0x100000000
  | _ => return 0

def value (d : Directive) (letter : Char) : Printer Unit := do
  let width ← extent (some d.width)
  let precision ← extent d.precision
  let conversion := d.conversion letter width precision
  match letter with
  | 's' => put (conversion.text ((← next?).getD "").toList)
  | 'b' =>
    let s := (← next?).getD ""
    let (text, stop) := unescape (s.length + 1) s.toList
    put (conversion.text text)
    if stop then throw none
  | 'c' =>
    let s := (← next?).getD ""
    put (conversion.pad [s.toList.headD '\x00'])
  | 'd' | 'i' => put (conversion.integer (← signed))
  | 'o' | 'u' | 'x' | 'X' => put (conversion.natural (← unsigned))
  | _ => put (conversion.real .double 1 (← real))

def piece : Piece → Printer Unit
  | .text cs => put cs
  | .value d letter => value d letter
  | .fault d text => do
    let _ ← extent (some d.width)
    let _ ← extent d.precision
    match text with
    | none => throw (some "missing format character")
    | some text => throw (some s!"{String.ofList text}: invalid directive")

def all (pieces : List Piece) : Nat → Printer Unit
  | 0 => return ()
  | fuel + 1 => do
    let before := (← get).arguments.length
    pieces.forM piece
    let after := (← get).arguments.length
    if after ≠ 0 ∧ after ≠ before then all pieces fuel

end Printer

def operands : List String → Except String (List String)
  | [] => .ok []
  | s :: rest =>
    match s.toList with
    | ['-', '-'] => .ok rest
    | '-' :: o :: _ => .error s!"Illegal option -{o}"
    | _ => .ok (s :: rest)

/-- The command; its complaints come before all that it writes. -/
def command : Tool := fun c =>
  match operands c.arguments with
  | .error text => c.answer 2 [c.told text]
  | .ok [] => c.answer 2 [c.told "usage: printf format [arg ...]"]
  | .ok (format :: arguments) =>
    let pieces := piecesOf (format.length + 1) format.toList
    let (result, s) := (Printer.all pieces (arguments.length + 1)).run { arguments }
    let written : Chunk := .out (.ofList s.written.reverse.flatten)
    let complaints := s.complaints.reverse.map c.told
    match result with
    | .error (some text) => c.answer 2 (complaints ++ [c.told text, written])
    | _ => c.answer (if complaints.isEmpty then 0 else 1) (complaints ++ [written])

end Mender.Machine.Shell.Printf
