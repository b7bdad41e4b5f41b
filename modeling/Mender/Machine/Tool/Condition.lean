import Mender.Machine.Tool.Basic
import Mender.Machine.Tool.Number

namespace Mender.Machine.Tool

open Files

inductive ConditionFault where
  | argumentExpected (token : String)
  | unexpectedOperator (token : String)
  | illegalNumber (token : String)
  | closingExpected
  | missingBracket
  deriving DecidableEq, Repr, Inhabited

def ConditionFault.message : ConditionFault → String
  | argumentExpected token => s!"{token}: argument expected"
  | unexpectedOperator token =>
    if token = "" then "unexpected operator" else s!"{token}: unexpected operator"
  | illegalNumber token => s!"Illegal number: {token}"
  | closingExpected => "closing paren expected"
  | missingBracket => "missing ]"

inductive Lexeme where
  | none
  | operand
  | unary (op : String)
  | binary (op : String)
  | negation
  | conjunction
  | disjunction
  | opening
  | closing
  deriving DecidableEq, Repr, Inhabited

def unaryOperators : List String :=
  ["-n", "-z", "-e", "-f", "-d", "-r", "-w", "-x", "-s", "-h", "-L", "-b", "-c", "-p", "-u", "-g",
    "-k", "-t", "-O", "-G", "-S"]

def binaryOperators : List String :=
  ["=", "!=", "<", ">", "-eq", "-ne", "-lt", "-le", "-gt", "-ge", "-nt", "-ot", "-ef"]

/-- The word in front. An operator that takes one operand stands for itself where none follows, or
where an operator with two operands follows and something behind it. -/
def lexeme : List String → Lexeme
  | [] => .none
  | s :: rest =>
    match s with
    | "!" => .negation
    | "-a" => .conjunction
    | "-o" => .disjunction
    | "(" => if rest = [] then .operand else .opening
    | ")" => .closing
    | _ =>
      if s ∈ binaryOperators then .binary s
      else if s ∈ unaryOperators then
        match rest with
        | [] => .operand
        | [_] => .unary s
        | next :: _ => if next ∈ binaryOperators then .operand else .unary s
      else .operand

def number (s : String) : Except ConditionFault Int :=
  match word? (some 10) s with
  | some n => .ok n
  | none => .error (.illegalNumber s)

/-- Whether a condition on one word holds. All files may be read and written, and directories only
can be entered. -/
def unary (files : Disk) (op operand : String) : Except ConditionFault Bool :=
  let entry := files.lookup (pathOf operand)
  let isSome : Bool := match entry with
    | .ok _ => true
    | .error _ => false
  let isDirectory : Bool := match entry with
    | .ok (_, e) => e.isDirectory
    | .error _ => false
  match op with
  | "-n" => .ok (operand ≠ "")
  | "-z" => .ok (operand = "")
  | "-t" => (number operand).map fun _ => false
  | "-f" => match entry with
    | .ok (p, .file _) => .ok (p ≠ device)
    | _ => .ok false
  | "-c" => match entry with
    | .ok (p, _) => .ok (p = device)
    | _ => .ok false
  | "-s" => match entry with
    | .ok (_, .file content) => .ok (content.size ≠ 0)
    | _ => .ok isDirectory
  | "-d" | "-x" => .ok isDirectory
  | _ => .ok (isSome && op ∈ ["-e", "-r", "-w", "-O", "-G"])

def binary (files : Disk) (op a b : String) : Except ConditionFault Bool :=
  let compare (holds : Int → Int → Bool) : Except ConditionFault Bool := do
    return holds (← number a) (← number b)
  match op with
  | "=" => .ok (a = b)
  | "!=" => .ok (a ≠ b)
  | "<" => .ok (a < b)
  | ">" => .ok (b < a)
  | "-eq" => compare (· = ·)
  | "-ne" => compare (· ≠ ·)
  | "-lt" => compare (· < ·)
  | "-le" => compare (· ≤ ·)
  | "-gt" => compare fun x y => y < x
  | "-ge" => compare fun x y => y ≤ x
  | "-ef" => match files.lookup (pathOf a), files.lookup (pathOf b) with
    | .ok (p, _), .ok (q, _) => .ok (p = q)
    | _, _ => .ok false
  | _ => .ok false

def comparison (files : Disk) (words : List String) (op : String) :
    Except ConditionFault (Bool × List String) :=
  match words with
  | a :: _ :: b :: rest => do return (← binary files op a b, b :: rest)
  | _ => .error (.argumentExpected op)

mutual

def disjunction (files : Disk) : Nat → List String → Except ConditionFault (Bool × List String)
  | 0, words => .ok (false, words)
  | fuel + 1, words => do
    let (a, last) ← conjunction files fuel words
    if lexeme last.tail = .disjunction then
      let (b, last) ← disjunction files fuel last.tail.tail
      return (a || b, last)
    else return (a, last)

def conjunction (files : Disk) : Nat → List String → Except ConditionFault (Bool × List String)
  | 0, words => .ok (false, words)
  | fuel + 1, words => do
    let (a, last) ← negation files fuel words
    if lexeme last.tail = .conjunction then
      let (b, last) ← conjunction files fuel last.tail.tail
      return (a && b, last)
    else return (a, last)

def negation (files : Disk) : Nat → List String → Except ConditionFault (Bool × List String)
  | 0, words => .ok (false, words)
  | fuel + 1, words => do
    if lexeme words = .negation then
      if words.tail = [] then return (true, words)
      let (a, last) ← negation files fuel words.tail
      return (!a, last)
    else prime files fuel words

def prime (files : Disk) : Nat → List String → Except ConditionFault (Bool × List String)
  | 0, words => .ok (false, words)
  | fuel + 1, words => do
    match lexeme words, words with
    | .none, _ => return (false, words)
    | _, [] => return (false, words)
    | .opening, _ :: inner =>
      if lexeme inner = .closing then return (false, inner)
      let (a, last) ← disjunction files fuel inner
      if lexeme last.tail = .closing then return (a, last.tail) else .error .closingExpected
    | .unary op, _ :: rest =>
      match rest with
      | [] => .error (.argumentExpected op)
      | operand :: _ => return (← unary files op operand, rest)
    | _, w :: rest =>
      match lexeme rest with
      | .binary op => comparison files words op
      | _ => return (w ≠ "", words)

end

def holdsAll (files : Disk) (words : List String) : Except ConditionFault Bool := do
  let (a, last) ← disjunction files (4 * words.length + 4) words
  match last with
  | w :: _ :: _ => .error (.unexpectedOperator w)
  | _ => return a

/-- Decides a condition. Three words with an operator in the middle are a comparison whatever the
other words are, and three or four may be a condition in parentheses or negated. -/
def holds (files : Disk) : List String → Except ConditionFault Bool
  | [] => .ok false
  | [a, op, b] =>
    if op ∈ binaryOperators then binary files op a b
    else if a = "(" ∧ b = ")" then holdsAll files [op]
    else if a = "!" then (holdsAll files [op, b]).map (!·)
    else holdsAll files [a, op, b]
  | [a, b, c, d] =>
    if a = "(" ∧ d = ")" then holdsAll files [b, c]
    else if a = "!" then (holds files [b, c, d]).map (!·)
    else holdsAll files [a, b, c, d]
  | words => holdsAll files words

def condition (bracket : Bool) : Tool := fun c =>
  let fault (f : ConditionFault) : Answer := c.answer 2 [c.told f.message]
  let decide (words : List String) : Answer :=
    match holds c.files words with
    | .ok a => c.answer (if a then 0 else 1) []
    | .error f => fault f
  if bracket then
    match c.arguments.getLast? with
    | some last =>
      if last.startsWith "]" then decide c.arguments.dropLast else fault .missingBracket
    | none => fault .missingBracket
  else decide c.arguments

end Mender.Machine.Tool
