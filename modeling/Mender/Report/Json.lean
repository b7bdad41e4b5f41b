namespace Mender.Report

inductive Json where
  | null
  | number (n : Nat)
  | text (s : String)
  | array (items : List Json)
  | object (fields : List (String × Json))
  deriving Repr, Inhabited

namespace Json

def escape (c : Char) : List Char :=
  if c = '"' then ['\\', '"']
  else if c = '\\' then ['\\', '\\']
  else if c = '\x08' then ['\\', 'b']
  else if c = '\x0c' then ['\\', 'f']
  else if c = '\n' then ['\\', 'n']
  else if c = '\r' then ['\\', 'r']
  else if c = '\t' then ['\\', 't']
  else if c.toNat < 0x20 then
    "\\u00".toList ++ [Nat.digitChar (c.toNat / 16), Nat.digitChar (c.toNat % 16)]
  else [c]

def quote (s : String) : String := "\"" ++ .ofList (s.toList.flatMap escape) ++ "\""

def indent (depth : Nat) : String := "\n" ++ .ofList (.replicate (2 * depth) ' ')

mutual

def render (depth : Nat) : Json → String
  | null => "null"
  | number n => toString n
  | text s => quote s
  | array [] => "[]"
  | array (x :: xs) =>
    "[" ++ indent (depth + 1) ++ render (depth + 1) x ++ renderItems (depth + 1) xs ++
      indent depth ++ "]"
  | object [] => "\x7b\x7d"
  | object ((k, x) :: fields) =>
    "\x7b" ++ indent (depth + 1) ++ quote k ++ ": " ++ render (depth + 1) x ++
      renderFields (depth + 1) fields ++ indent depth ++ "\x7d"

def renderItems (depth : Nat) : List Json → String
  | [] => ""
  | x :: xs => "," ++ indent depth ++ render depth x ++ renderItems depth xs

def renderFields (depth : Nat) : List (String × Json) → String
  | [] => ""
  | (k, x) :: fields =>
    "," ++ indent depth ++ quote k ++ ": " ++ render depth x ++ renderFields depth fields

end

def pretty (x : Json) : String := x.render 0

end Json

end Mender.Report
