namespace Mender.Machine.Tool

inductive Taking where
  | nothing
  | value
  | perhaps
  deriving DecidableEq, Repr, Inhabited

structure OptionSet where
  letters : List (Char × Taking)
  words : List (String × Taking × String)
  strict : Bool := false
  negatives : Bool := false
  deriving Repr, Inhabited

inductive OptionFault where
  | invalid (letter : Char)
  | unrecognized (text : String)
  | ambiguous (text : String) (possible : List String)
  | unwantedValue (word : String)
  | missingValue (word : String)
  | missingLetterValue (letter : Char)
  deriving DecidableEq, Repr, Inhabited

def OptionFault.message : OptionFault → String
  | invalid letter => s!"invalid option -- '{letter}'"
  | unrecognized text => s!"unrecognized option '--{text}'"
  | ambiguous text possible =>
    let shown := String.join (possible.map fun w => s!" '--{w}'")
    s!"option '--{text}' is ambiguous; possibilities:{shown}"
  | unwantedValue word => s!"option '--{word}' doesn't allow an argument"
  | missingValue word => s!"option '--{word}' requires an argument"
  | missingLetterValue letter => s!"option requires an argument -- '{letter}'"

abbrev Given := String × Option String

/-- Arguments told apart: options, those in front of a fault if there is one, and operands. -/
structure Sorted where
  given : List Given
  operands : Except OptionFault (List String)

def Sorted.behind (front : List Given) (s : Sorted) : Sorted := { s with given := front ++ s.given }

namespace OptionSet

def word? (o : OptionSet) (text : String) : Except OptionFault (String × Taking × String) :=
  match o.words.find? (·.1 = text) with
  | some w => .ok w
  | none =>
    match o.words.filter (text.toList.isPrefixOf ·.1.toList) with
    | [] => .error (.unrecognized text)
    | w :: ws =>
      if ws.all (·.2 = w.2) then .ok w
      else .error (.ambiguous text ((w :: ws).map (·.1)))

def cluster (o : OptionSet) : List Char → List Given × Except OptionFault (Option Char)
  | [] => ([], .ok none)
  | c :: cs =>
    match o.letters.lookup c with
    | none => ([], .error (.invalid c))
    | some .nothing =>
      let (given, open_) := o.cluster cs
      ((.singleton c, none) :: given, open_)
    | some .value =>
      if cs = [] then ([], .ok (some c)) else ([(.singleton c, some (.ofList cs))], .ok none)
    | some .perhaps => ([(.singleton c, if cs = [] then none else some (.ofList cs))], .ok none)

def long (o : OptionSet) (cs : List Char) :
    Except OptionFault (String × Taking × String × Option String) :=
  let name := cs.takeWhile (· ≠ '=')
  let value := match cs.drop name.length with
    | _ :: value => some (String.ofList value)
    | [] => none
  match o.word? (.ofList name) with
  | .ok (word, taking, key) => .ok (word, taking, key, value)
  | .error (.unrecognized _) => .error (.unrecognized (.ofList cs))
  | .error (.ambiguous _ possible) => .error (.ambiguous (.ofList cs) possible)
  | .error f => .error f

def read (o : OptionSet) : List String → Sorted
  | [] => ⟨[], .ok []⟩
  | s :: rest =>
    match s.toList with
    | ['-', '-'] => ⟨[], .ok rest⟩
    | '-' :: '-' :: cs =>
      match o.long cs with
      | .error f => ⟨[], .error f⟩
      | .ok (word, taking, key, value) =>
        match taking, value, rest with
        | .nothing, some _, _ => ⟨[], .error (.unwantedValue word)⟩
        | .value, none, [] => ⟨[], .error (.missingValue word)⟩
        | .value, none, v :: rest => (o.read rest).behind [(key, some v)]
        | _, value, rest => (o.read rest).behind [(key, value)]
    | '-' :: c :: cs =>
      if o.negatives ∧ (c = '.' ∨ c.isDigit) then ⟨[], .ok (s :: rest)⟩
      else
        let (front, open_) := o.cluster (c :: cs)
        match open_, rest with
        | .error f, _ => ⟨front, .error f⟩
        | .ok (some c), [] => ⟨front, .error (.missingLetterValue c)⟩
        | .ok (some c), v :: rest => (o.read rest).behind (front ++ [(.singleton c, some v)])
        | .ok none, rest => (o.read rest).behind front
    | _ =>
      if o.strict then ⟨[], .ok (s :: rest)⟩
      else
        let sorted := o.read rest
        { sorted with operands := sorted.operands.map (s :: ·) }

end OptionSet

end Mender.Machine.Tool
