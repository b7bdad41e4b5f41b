namespace Mender.Pattern

abbrev Ranges := Array (Nat × Nat)

def lastPoint : Nat := 0x10ffff

def tableWords (s : String) : List String :=
  (s.toList.splitOnP fun c => c = ' ' || c = '\n').filterMap fun w =>
    if w = [] then none else some (.ofList w)

namespace Ranges

def hexDigit (c : Char) : Nat := if c.isDigit then c.toNat - 48 else c.toNat - 55

def hex (s : String) : Nat := s.foldl (fun n c => 16 * n + hexDigit c) 0

/-- Reads ranges such as `41-5A` and single points such as `5F`. -/
def ofText (s : String) : Ranges :=
  (tableWords s).toArray.map fun range =>
    match range.splitOn "-" with
    | [a, b] => (hex a, hex b)
    | _ => (hex range, hex range)

def contains (r : Ranges) (n : Nat) : Bool := r.any fun (a, b) => a ≤ n && n ≤ b

def joined : Nat × Nat → List (Nat × Nat) → List (Nat × Nat)
  | r, [] => [r]
  | (a, b), (c, d) :: rest =>
    if c ≤ b + 1 then joined (a, max b d) rest else (a, b) :: joined (c, d) rest

def ofList (ranges : List (Nat × Nat)) : Ranges :=
  match ranges.mergeSort fun r s => r.1 ≤ s.1 with
  | [] => #[]
  | r :: rest => (joined r rest).toArray

def merged (sets : List Ranges) : Ranges := ofList (sets.flatMap Array.toList)

def union (r s : Ranges) : Ranges := merged [r, s]

def gaps (start : Nat) : List (Nat × Nat) → List (Nat × Nat)
  | [] => if start ≤ lastPoint then [(start, lastPoint)] else []
  | (a, b) :: rest =>
    if start < a then (start, a - 1) :: gaps (b + 1) rest else gaps (b + 1) rest

def compl (r : Ranges) : Ranges := (gaps 0 r.toList).toArray

def inter (r s : Ranges) : Ranges := (r.compl.union s.compl).compl

def diff (r s : Ranges) : Ranges := r.inter s.compl

def symDiff (r s : Ranges) : Ranges := (r.diff s).union (s.diff r)

end Ranges

end Mender.Pattern
