import Mender.Pattern.Ranges

namespace Mender.Pattern

abbrev ByteSequence := List (Nat × Nat)

def lastOfSize (n : Nat) : Nat :=
  match n with
  | 1 => 0x7f
  | 2 => 0x7ff
  | 3 => 0xffff
  | _ => lastPoint

def encoded (n : Nat) : List Nat :=
  let tail (i : Nat) : Nat := 0x80 + (n >>> (6 * i)) % 64
  if n ≤ 0x7f then [n]
  else if n ≤ 0x7ff then [0xc0 + n / 64, tail 0]
  else if n ≤ 0xffff then [0xe0 + n / 4096, tail 1, tail 0]
  else [0xf0 + n / 262144, tail 2, tail 1, tail 0]

/-- Where a range has to be cut in two: the last point of the first part. -/
def cutPoint? (a b : Nat) : Option Nat :=
  if a < 0xe000 ∧ 0xd7ff < b then some (if a ≤ 0xd7ff then 0xd7ff else 0xdfff)
  else match [1, 2, 3].find? fun i => a ≤ lastOfSize i && lastOfSize i < b with
    | some i => some (lastOfSize i)
    | none =>
      if b ≤ 0x7f then none
      else [64, 4096, 262144].findSome? fun m =>
        if a / m = b / m then none
        else if a % m ≠ 0 then some (a / m * m + (m - 1))
        else if b % m ≠ m - 1 then some (b / m * m - 1)
        else none

def rangeSequences : Nat → Nat → Nat → List ByteSequence
  | 0, _, _ => []
  | fuel + 1, a, b =>
    if b < a ∨ (0xd800 ≤ a ∧ b ≤ 0xdfff) then []
    else match cutPoint? a b with
      | some c => rangeSequences fuel a c ++ rangeSequences fuel (c + 1) b
      | none => [(encoded a).zip (encoded b)]

def sequencesOf (r : Ranges) : List ByteSequence :=
  r.toList.flatMap fun (a, b) => rangeSequences 64 a b

end Mender.Pattern
