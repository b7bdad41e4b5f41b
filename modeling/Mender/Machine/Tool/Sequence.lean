import Mender.Machine.Tool.Basic
import Mender.Machine.Tool.Format
import Mender.Machine.Tool.Options
import Mender.Machine.Tool.Quote

namespace Mender.Machine.Tool

def sequenceOptions : OptionSet where
  letters := [('f', .value), ('s', .value), ('w', .nothing)]
  words := [("equal-width", .nothing, "w"), ("format", .value, "f"), ("separator", .value, "s"),
    ("help", .nothing, "help"), ("version", .nothing, "version")]
  strict := true
  negatives := true

def naturalText? (s : String) : Option Nat :=
  if s ≠ "" ∧ s.toList.all Char.isDigit then some (decimal s.toList) else none

def realText? (s : String) : Option Real :=
  match realInFront? .extended s.toList with
  | some r =>
    let zero : Bool := match r.value with
      | .finite _ 0 _ => true
      | _ => false
    if r.rest = [] ∧ (!r.outOfRange ∨ zero) then some r.value else none
  | none => none

structure Operand where
  value : Real
  width : Int := 0
  precision : Option Nat := none
  deriving Repr, Inhabited

def Operand.one : Operand := ⟨.ofInt 1, 1, some 0⟩

def Real.isFinite : Real → Bool
  | finite .. => true
  | _ => false

def exponentOf (cs : List Char) : Int :=
  match numberInFront? (some 10) cs with
  | some (n, _) => clamp n
  | none => 0

def Operand.measured (value : Real) (cs : List Char) : Operand :=
  let cs := cs.dropWhile fun c => isSpace c || c = '+'
  let front := cs.takeWhile (· ≠ '.')
  let hasPoint := front.length < cs.length
  let precision : Option Nat := if hasPoint ∨ 'p' ∈ cs then none else some 0
  if 'x' ∈ cs ∨ 'X' ∈ cs ∨ !value.isFinite then { value, precision }
  else
    let isExponent (c : Char) : Bool := c = 'e' || c = 'E'
    let fraction := ((cs.drop (front.length + 1)).takeWhile (!isExponent ·)).length
    let width : Int := cs.length
    let (precision, width) : Nat × Int :=
      if hasPoint then
        let bare := front.getLast?.all (!·.isDigit)
        (fraction, width + if fraction = 0 then -1 else if bare then 1 else 0)
      else (precision.getD 0, width)
    let letter := if 'e' ∈ cs then 'e' else 'E'
    let mantissa := cs.takeWhile (· ≠ letter)
    if mantissa.length = cs.length then { value, precision := some precision, width }
    else
      let exponent := exponentOf (cs.drop (mantissa.length + 1))
      let width := width - (cs.length - mantissa.length : Nat)
      if exponent < 0 then
        let shorter : Bool := hasPoint && mantissa.length ≠ front.length + 1
        { value
          precision := some (precision + exponent.natAbs)
          width := width + (if shorter then 0 else 1) + exponent.natAbs }
      else
        let left := precision - min precision exponent.toNat
        let width := if hasPoint ∧ left = 0 ∧ fraction ≠ 0 then width - 1 else width
        { value, precision := some left, width := width + (exponent.toNat - fraction : Nat) }

inductive SequenceFault where
  | missing
  | extra (text : String)
  | noNumber (text : String)
  | undefined (text : String)
  | noStep (text : String)
  | formatAndWidth
  | formatWithout (format : String)
  | formatCut (format : String)
  | formatUnknown (format : String) (letter : Char)
  | formatTooMany (format : String)
  deriving DecidableEq, Repr, Inhabited

namespace SequenceFault

def message : SequenceFault → String
  | missing => "missing operand"
  | extra text => s!"extra operand {quoted text}"
  | noNumber text => s!"invalid floating point argument: {quoted text}"
  | undefined text => s!"invalid 'not-a-number' argument: {quoted text}"
  | noStep text => s!"invalid Zero increment value: {quoted text}"
  | formatAndWidth => "format string may not be specified when printing equal width strings"
  | formatWithout format => s!"format {quoted format} has no % directive"
  | formatCut format => s!"format {quoted format} ends in %"
  | formatUnknown format letter => s!"format {quoted format} has unknown %{letter} directive"
  | formatTooMany format => s!"format {quoted format} has too many % directives"

def helps : SequenceFault → Bool
  | formatWithout _ | formatCut _ | formatUnknown .. | formatTooMany _ => false
  | _ => true

end SequenceFault

structure Layout where
  front : List Char := []
  conversion : Conversion
  behind : List Char := []
  deriving Repr, Inhabited

def plainFront : List Char → List Char × Option (List Char)
  | [] => ([], none)
  | '%' :: '%' :: cs =>
    let (text, rest) := plainFront cs
    ('%' :: text, rest)
  | '%' :: cs => ([], some cs)
  | c :: cs =>
    let (text, rest) := plainFront cs
    (c :: text, rest)

def Layout.read (format : String) : Except SequenceFault Layout :=
  match plainFront format.toList with
  | (_, none) => .error (.formatWithout format)
  | (front, some cs) =>
    let (d, cs) := directiveInFront ['-', '+', '#', '0', ' ', '\''] cs
    let cs := if cs.head? = some 'L' then cs.tail else cs
    match cs with
    | [] => .error (.formatCut format)
    | letter :: cs =>
      if letter ∉ "efgaEFGA".toList then .error (.formatUnknown format letter)
      else match plainFront cs with
        | (_, some _) => .error (.formatTooMany format)
        | (behind, none) =>
          .ok ⟨front, d.conversion letter 0 0, behind⟩

def Layout.number (l : Layout) (x : Real) : List Char := l.conversion.real .extended 4 x

def Layout.text (l : Layout) (x : Real) : List Char := l.front ++ l.number x ++ l.behind

def Layout.fitting (equal : Bool) (first step last : Operand) : Layout :=
  match first.precision, step.precision, last.precision with
  | some f, some s, some l =>
    let places := max f s
    let conversion : Conversion := { letter := 'f', precision := some places }
    if equal then
      let a := first.width + (places - f : Nat) + if f = 0 ∧ places ≠ 0 then 1 else 0
      let b := last.width + ((places : Int) - l) +
        if l ≠ 0 ∧ places = 0 then -1 else if l = 0 ∧ places ≠ 0 then 1 else 0
      { conversion := { conversion with zero := true, width := (max a b).toNat } }
    else { conversion }
  | _, _, _ => { conversion := { letter := 'g' } }

def endless : Nat := 100000

/-- The numbers from `first` on, each with whether another one is behind it. Of the ones past the
last, one is written that would be read as the last. -/
def row (l : Layout) (first step last : Real) : Nat → Nat → Real → List (List Char)
  | 0, _, _ => []
  | fuel + 1, n, x =>
    let past (y : Real) : Bool := if step.isNegative then y.less last else last.less y
    let y := first.addTimes .extended step n
    let here := l.text x
    if past y then
      let equal := (realText? (.ofList (l.number y))).any fun z =>
        !z.less last && !last.less z && z.isFinite = last.isFinite
      if equal ∧ l.text y ≠ here then [here, l.text y] else [here]
    else here :: row l first step last fuel (n + 1) y

def rowBound (first step last : Real) : Nat :=
  match first, step, last with
  | .finite .., .finite _ m _, .finite .. =>
    if m = 0 then endless
    else
      let (a, b) := first.signed
      let (c, d) := last.signed
      let (e, f) := step.fraction
      (c * b - a * d).natAbs * f / (b * d * e) + 3
  | _, _, _ => endless

def stepMost : Nat := 200

def count (step : Nat) : Nat → Nat → List (List Char)
  | 0, _ => []
  | n + 1, i => Nat.toDigits 10 i :: count step n (i + step)

def rowText (separator : String) : List (List Char) → String
  | [] => ""
  | items => .ofList ((items.intersperse separator.toList).flatten ++ ['\n'])

def counted (first step : Nat) (last : Option Nat) : List (List Char) :=
  match last with
  | some last => if first ≤ last then count step ((last - first) / step + 1) first else []
  | none => count step endless first

def Real.natural? (x : Real) : Option Nat :=
  let (a, b) := x.fraction
  if x.isFinite ∧ a % b = 0 ∧ !x.isNegative then some (a / b) else none

def operandOf (s : String) : Except SequenceFault Operand :=
  match realText? s with
  | none => .error (.noNumber s)
  | some (.undefined _) => .error (.undefined s)
  | some x => .ok (.measured x s.toList)

def rowOperands : List String → Except SequenceFault (Operand × Operand × Operand)
  | [a] => return (.one, .one, ← operandOf a)
  | [a, b] => return (← operandOf a, .one, ← operandOf b)
  | [a, s, b] => do
    let first ← operandOf a
    let step ← operandOf s
    if step.value.signed.1 = 0 ∧ step.value.isFinite then throw (.noStep s)
    return (first, step, ← operandOf b)
  | [] => .error .missing
  | _ :: _ :: _ :: s :: _ => .error (.extra s)

def sequenceText (separator : String) (format : Option String) (equal : Bool)
    (operands : List String) : Except SequenceFault String := do
  if operands = [] then throw .missing
  if let some s := operands[3]? then throw (.extra s)
  let layout ← format.mapM Layout.read
  if layout.isSome ∧ equal then throw .formatAndWidth
  let simple := layout.isNone && !equal && separator.length = 1
  let small (n : Nat) : Bool := 0 < n && n ≤ stepMost
  let whole : Option (Nat × Nat × Nat) := match operands.map naturalText? with
    | [some b] => some (1, 1, b)
    | [some a, some b] => some (a, 1, b)
    | [some a, some s, some b] => if small s then some (a, s, b) else none
    | _ => none
  if let (true, some (a, s, b)) := (simple, whole) then
    if a ≤ b then return rowText separator (counted a s (some b))
  let (first, step, last) ← rowOperands operands
  let endsHigh := last.value = .infinite false
  let precise := [first, step, last].all (·.precision = some 0)
  if simple ∧ precise then
    if let (some a, some s) := (first.value.natural?, step.value.natural?) then
      if small s then
        if endsHigh then return rowText separator (counted a s none)
        if let some b := last.value.natural? then
          if a ≤ b then return rowText separator (counted a s (some b))
  let layout := layout.getD (.fitting equal first step last)
  let (first, step, last) := (first.value, step.value, last.value)
  if (if step.isNegative then first.less last else last.less first) then return ""
  return rowText separator (row layout first step last (rowBound first step last) 1 first)

def sequence : Tool := fun c =>
  match sequenceOptions.read c.arguments with
  | ⟨_, .error f⟩ => c.misused f.message
  | ⟨given, .ok operands⟩ =>
    let last (key : String) : Option String :=
      ((given.filter (·.1 = key)).getLast?).bind (·.2)
    let equal := given.any (·.1 = "w")
    match sequenceText ((last "s").getD "\n") (last "f") equal operands with
    | .ok text => c.answer 0 [.out text]
    | .error f => if f.helps then c.misused f.message else c.answer 1 [c.told f.message]

end Mender.Machine.Tool
