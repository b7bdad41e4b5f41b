import Mender.Syntax.Parsed

namespace Mender.Syntax

/-- Nests rows: each takes as many of the trees behind it as it has rows below. -/
def nest : List (Row × Nat) → List (Row × Rows)
  | [] => []
  | (row, count) :: rows =>
    let trees := nest rows
    let below := (trees.take count).foldr (fun (r, b) rest => Rows.cons r b rest) .nil
    (row, below) :: trees.drop count

def Parsed.ofRows? (rows : List (Row × Nat)) : Option Parsed :=
  (nest rows).head?.map fun (root, below) => ⟨root, below⟩

/-- A row with the flags that are added up in `flags`: 1 an error, 2 missing, 4 an error below. -/
def Row.flagged (kind : String) (start stop : Nat) (field : Option String)
    (flags line column : Nat) : Row :=
  ⟨kind, start, stop, field, flags % 2 = 1, flags / 2 % 2 = 1, flags / 4 % 2 = 1, line, column⟩

/-- Reads kind, start, stop, field or a dash, flags, number of rows below, line and column. -/
def rowOfLine? (text : String) : Option (Row × Nat) :=
  match text.splitOn "\t" with
  | [kind, start, stop, field, flags, count, line, column] => do
    let kind := if kind = "\\n" then "\n" else kind
    let field := if field = "-" then none else some field
    let row := Row.flagged kind (← start.toNat?) (← stop.toNat?) field (← flags.toNat?)
      (← line.toNat?) (← column.toNat?)
    return (row, ← count.toNat?)
  | _ => none

def Parsed.ofTable? (text : String) : Option Parsed := do
  Parsed.ofRows? (← ((text.splitOn "\n").filter (· ≠ "")).mapM rowOfLine?)

end Mender.Syntax
