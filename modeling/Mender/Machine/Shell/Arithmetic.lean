import Mender.Machine.Tool.Number

namespace Mender.Machine.Shell

open Tool

inductive ArithmeticFault where
  | expectingPrimary
  | expectingClosing
  | expectingColon
  | expectingEnd
  | divisionByZero
  | illegalNumber (text : String)
  deriving DecidableEq, Repr, Inhabited

def ArithmeticFault.message (expression : String) (f : ArithmeticFault) : String :=
  let told (reason : String) : String :=
    s!"arithmetic expression: {reason}: " ++ "\"" ++ expression ++ "\""
  match f with
  | expectingPrimary => told "expecting primary"
  | expectingClosing => told "expecting ')'"
  | expectingColon => told "expecting ':'"
  | expectingEnd => told "expecting EOF"
  | divisionByZero => told "division by zero"
  | illegalNumber text => s!"Illegal number: {text}"

inductive Term where
  | number (n : Int)
  | name (s : String)
  | sign (s : String)
  deriving DecidableEq, Repr, Inhabited

def arithmeticSigns : List String :=
  ["<<=", ">>=", "<<", ">>", "<=", ">=", "==", "!=", "&&", "||", "+=", "-=", "*=", "/=", "%=", "&=",
    "|=", "^=", "<", ">", "=", "!", "&", "|", "+", "-", "*", "/", "%", "^", "~", "?", ":", "(", ")"]

def arithmeticTerms : Nat → List Char → List Term
  | 0, _ => []
  | _ + 1, [] => []
  | fuel + 1, c :: cs =>
    if c ∈ [' ', '\t', '\n'] then arithmeticTerms fuel cs
    else if c.isDigit then
      match numberInFront? none (c :: cs) with
      | some (n, rest) => .number (clamp n) :: arithmeticTerms fuel rest
      | none => [.sign ""]
    else if c.isAlpha ∨ c = '_' then
      let name := c :: cs.takeWhile fun d => d.isAlphanum || d = '_'
      .name (.ofList name) :: arithmeticTerms fuel (cs.drop (name.length - 1))
    else
      match arithmeticSigns.find? fun s => s.toList.isPrefixOf (c :: cs) with
      | some s => .sign s :: arithmeticTerms fuel ((c :: cs).drop s.length)
      | none => [.sign ""]

def operatorLevels : List (List String) :=
  [["|"], ["^"], ["&"], ["==", "!="], ["<=", ">=", "<", ">"], ["<<", ">>"], ["+", "-"],
    ["*", "/", "%"]]

def truth (b : Bool) : Int := if b then 1 else 0

def applyOperator (op : String) (a b : Int) : Except ArithmeticFault Int :=
  let bits (f : UInt64 → UInt64 → UInt64) : Except ArithmeticFault Int :=
    .ok (wrap (f (.ofInt a) (.ofInt b)).toNat)
  match op with
  | "|" => bits (· ||| ·)
  | "^" => bits (· ^^^ ·)
  | "&" => bits (· &&& ·)
  | "==" => .ok (truth (a = b))
  | "!=" => .ok (truth (a ≠ b))
  | "<=" => .ok (truth (a ≤ b))
  | ">=" => .ok (truth (b ≤ a))
  | "<" => .ok (truth (a < b))
  | ">" => .ok (truth (b < a))
  | "<<" => .ok (wrap (a * Nat.pow 2 (b % 64).toNat))
  | ">>" => .ok (a / Nat.pow 2 (b % 64).toNat)
  | "+" => .ok (wrap (a + b))
  | "-" => .ok (wrap (a - b))
  | "*" => .ok (wrap (a * b))
  | "/" => if b = 0 then .error .divisionByZero else .ok (wrap (a.tdiv b))
  | _ => if b = 0 then .error .divisionByZero else .ok (a.tmod b)

def compoundOperator? (s : String) : Option String :=
  if s.endsWith "=" ∧ s.length ≥ 2 ∧ s ∉ ["==", "!=", "<=", ">="] then
    some (.ofList s.toList.dropLast)
  else none

structure Calculator where
  terms : List Term
  assigned : List (String × Int) := []

abbrev Calculation := StateT Calculator (Except ArithmeticFault)

namespace Calculation

def next? : Calculation (Option Term) := return (← get).terms.head?

def skip : Calculation Unit := modify fun s => { s with terms := s.terms.tail }

def sign? (signs : List String) : Calculation (Option String) := do
  match ← next? with
  | some (.sign s) =>
    if s ∈ signs then
      skip
      return some s
    else return none
  | _ => return none

def remembered (value : String → String) (name : String) : Calculation Int := do
  match (← get).assigned.lookup name with
  | some n => return n
  | none =>
    let text := value name
    if text.toList.all isSpace then return 0
    else match word? none text with
      | some n => return n
      | none => throw (.illegalNumber text)

def assign (name : String) (n : Int) : Calculation Unit :=
  modify fun s => { s with assigned := (name, n) :: s.assigned }

mutual

/-- An assignment or a condition; `dry` tells that no variable is looked at and nothing applied. -/
def expression (value : String → String) : Nat → Bool → Calculation Int
  | 0, _ => throw .expectingPrimary
  | fuel + 1, dry => do
    match (← get).terms with
    | .name name :: .sign s :: rest =>
      let op := compoundOperator? s
      if s = "=" ∨ op.isSome then
        modify fun c => { c with terms := rest }
        let n ← expression value fuel dry
        if dry then return n
        let n ← match op with
          | some op => liftM (applyOperator op (← remembered value name) n)
          | none => pure n
        assign name n
        return n
      else conditional value fuel dry
    | _ => conditional value fuel dry

def conditional (value : String → String) : Nat → Bool → Calculation Int
  | 0, _ => throw .expectingPrimary
  | fuel + 1, dry => do
    let a ← disjunction value fuel dry
    match ← sign? ["?"] with
    | none => return a
    | some _ =>
      let b ← expression value fuel (dry || a = 0)
      match ← sign? [":"] with
      | none => throw .expectingColon
      | some _ =>
        let c ← conditional value fuel (dry || a ≠ 0)
        return if a = 0 then c else b

def disjunction (value : String → String) : Nat → Bool → Calculation Int
  | 0, _ => throw .expectingPrimary
  | fuel + 1, dry => do
    let a ← conjunction value fuel dry
    match ← sign? ["||"] with
    | none => return a
    | some _ =>
      let b ← disjunction value fuel (dry || a ≠ 0)
      return truth (a ≠ 0 ∨ b ≠ 0)

def conjunction (value : String → String) : Nat → Bool → Calculation Int
  | 0, _ => throw .expectingPrimary
  | fuel + 1, dry => do
    let a ← sum value fuel dry operatorLevels
    match ← sign? ["&&"] with
    | none => return a
    | some _ =>
      let b ← conjunction value fuel (dry || a = 0)
      return truth (a ≠ 0 ∧ b ≠ 0)

def sum (value : String → String) : Nat → Bool → List (List String) → Calculation Int
  | 0, _, _ => throw .expectingPrimary
  | fuel + 1, dry, [] => primary value fuel dry
  | fuel + 1, dry, ops :: levels => do
    let a ← sum value fuel dry levels
    furtherTerms value fuel dry ops levels a

def furtherTerms (value : String → String) :
    Nat → Bool → List String → List (List String) → Int → Calculation Int
  | 0, _, _, _, _ => throw .expectingPrimary
  | fuel + 1, dry, ops, levels, a => do
    match ← sign? ops with
    | none => return a
    | some op =>
      let b ← sum value fuel dry levels
      let a ← if dry then pure b else liftM (applyOperator op a b)
      furtherTerms value fuel dry ops levels a

def primary (value : String → String) : Nat → Bool → Calculation Int
  | 0, _ => throw .expectingPrimary
  | fuel + 1, dry => do
    let t ← next?
    skip
    match t with
    | some (.number n) => return n
    | some (.name s) => if dry then return 0 else remembered value s
    | some (.sign "+") => primary value fuel dry
    | some (.sign "-") => return wrap (-(← primary value fuel dry))
    | some (.sign "!") => return truth ((← primary value fuel dry) = 0)
    | some (.sign "~") => return -(← primary value fuel dry) - 1
    | some (.sign "(") =>
      let a ← expression value fuel dry
      match ← sign? [")"] with
      | some _ => return a
      | none => throw .expectingClosing
    | _ => throw .expectingPrimary

end

end Calculation

def calculate (value : String → String) (expression : String) :
    Except ArithmeticFault (Int × List (String × Int)) := do
  let cs := expression.toList
  let terms := arithmeticTerms (cs.length + 1) cs
  let (n, s) ← (Calculation.expression value (30 * terms.length + 30) false).run { terms }
  if s.terms = [] then return (n, s.assigned) else .error .expectingEnd

end Mender.Machine.Shell
