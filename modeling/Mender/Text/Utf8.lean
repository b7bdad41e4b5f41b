namespace Mender.Text

def isContinuation (b : UInt8) : Bool := 0x80 ≤ b && b ≤ 0xBF

def followers (b : UInt8) : Option Nat :=
  if b < 0x80 then some 0
  else if 0xC2 ≤ b && b ≤ 0xDF then some 1
  else if 0xE0 ≤ b && b ≤ 0xEF then some 2
  else if 0xF0 ≤ b && b ≤ 0xF4 then some 3
  else none

def isSecond (b c : UInt8) : Bool :=
  if b = 0xE0 then 0xA0 ≤ c && c ≤ 0xBF
  else if b = 0xED then 0x80 ≤ c && c ≤ 0x9F
  else if b = 0xF0 then 0x90 ≤ c && c ≤ 0xBF
  else if b = 0xF4 then 0x80 ≤ c && c ≤ 0x8F
  else isContinuation c

def leadValue (n : Nat) (b : UInt8) : Nat :=
  match n with
  | 0 => b.toNat
  | 1 => b.toNat % 32
  | 2 => b.toNat % 16
  | _ => b.toNat % 8

structure Partial where
  lead : UInt8
  fresh : Bool
  value : Nat
  missing : Nat

def Partial.takes (p : Partial) (b : UInt8) : Bool :=
  if p.fresh then isSecond p.lead b else isContinuation b

def begin (b : UInt8) : Except (List Char) Partial :=
  match followers b with
  | none => .error ['\ufffd']
  | some 0 => .error [Char.ofNat b.toNat]
  | some n => .ok ⟨b, true, leadValue n b, n⟩

/-- Decodes bytes behind a sequence that may have begun. A broken sequence becomes one replacement
character, however long it is. -/
def decodeFrom : Option Partial → List UInt8 → List Char
  | none, [] => []
  | some _, [] => ['\ufffd']
  | none, b :: bs =>
    match begin b with
    | .error cs => cs ++ decodeFrom none bs
    | .ok p => decodeFrom (some p) bs
  | some p, b :: bs =>
    if p.takes b then
      let value := 64 * p.value + b.toNat % 64
      if p.missing = 1 then Char.ofNat value :: decodeFrom none bs
      else decodeFrom (some ⟨p.lead, false, value, p.missing - 1⟩) bs
    else
      match begin b with
      | .error cs => '\ufffd' :: cs ++ decodeFrom none bs
      | .ok p => '\ufffd' :: decodeFrom (some p) bs

def lossy (bytes : ByteArray) : String := .ofList (decodeFrom none bytes.toList)

end Mender.Text
