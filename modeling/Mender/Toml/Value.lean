namespace Mender.Toml

inductive Origin where
  | header
  /-- Named on the way to a table with a longer header. -/
  | implied
  /-- Named on the way to the last part of a dotted key. -/
  | dotted
  | inline
  deriving DecidableEq, Repr, Inhabited

inductive Value where
  | text (s : String)
  | integer (n : Int)
  | float
  | boolean (b : Bool)
  | moment
  | array (items : List Value)
  | table (origin : Origin) (fields : List (String × Value))
  | tables (items : List (List (String × Value)))
  deriving Repr, Inhabited

abbrev Fields := List (String × Value)

namespace Fields

def get? (fs : Fields) (key : String) : Option Value := (fs.find? (·.1 = key)).map (·.2)

def set (fs : Fields) (key : String) (v : Value) : Fields :=
  match fs with
  | [] => [(key, v)]
  | f :: fs => if f.1 = key then (key, v) :: fs else f :: set fs key v

def updateAt (f : Fields → Option Fields) : List String → Fields → Option Fields
  | [], fs => f fs
  | k :: ks, fs =>
    match fs.get? k with
    | none => (updateAt f ks []).map fun inner => fs.set k (.table .implied inner)
    | some (.table origin inner) =>
      if origin = .inline then none
      else (updateAt f ks inner).map fun inner => fs.set k (.table origin inner)
    | some (.tables items) =>
      match items.getLast? with
      | some last =>
        (updateAt f ks last).map fun last => fs.set k (.tables (items.dropLast ++ [last]))
      | none => none
    | some _ => none

def openTable (key : String) (fs : Fields) : Option Fields :=
  match fs.get? key with
  | none => some (fs.set key (.table .header []))
  | some (.table .implied inner) => some (fs.set key (.table .header inner))
  | some _ => none

def pushTable (key : String) (fs : Fields) : Option Fields :=
  match fs.get? key with
  | none => some (fs.set key (.tables [[]]))
  | some (.tables items) => some (fs.set key (.tables (items ++ [[]])))
  | some _ => none

def insert (key : String) (v : Value) : List String → Fields → Option Fields
  | [], fs => if (fs.get? key).isSome then none else some (fs.set key v)
  | k :: ks, fs =>
    match fs.get? k with
    | none => (insert key v ks []).map fun inner => fs.set k (.table .dotted inner)
    | some (.table .dotted inner) =>
      (insert key v ks inner).map fun inner => fs.set k (.table .dotted inner)
    | some (.table .implied inner) =>
      if ks = [] then none
      else (insert key v ks inner).map fun inner => fs.set k (.table .implied inner)
    | some (.tables items) =>
      match items.getLast? with
      | some last =>
        if ks = [] then none
        else (insert key v ks last).map fun last => fs.set k (.tables (items.dropLast ++ [last]))
      | none => none
    | some _ => none

end Fields

inductive Statement where
  | pair (path : List String) (key : String) (value : Value)
  | header (path : List String) (key : String)
  | arrayHeader (path : List String) (key : String)
  deriving Repr, Inhabited

/-- The tables that statements describe, `opened` being the path of the latest header. -/
def assemble (opened : List String) (fs : Fields) : List Statement → Option Fields
  | [] => some fs
  | .pair path key v :: rest => do
    let fs ← Fields.updateAt (Fields.insert key v path) opened fs
    assemble opened fs rest
  | .header path key :: rest => do
    let fs ← Fields.updateAt (Fields.openTable key) path fs
    assemble (path ++ [key]) fs rest
  | .arrayHeader path key :: rest => do
    let fs ← Fields.updateAt (Fields.pushTable key) path fs
    assemble (path ++ [key]) fs rest

end Mender.Toml
