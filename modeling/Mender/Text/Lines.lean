namespace Mender.Text

/-- The text up to the first newline, less one carriage return before it. -/
def firstLine (cs : List Char) : List Char :=
  let line := cs.takeWhile (· ≠ '\n')
  if line.length < cs.length ∧ line.getLast? = some '\r' then line.dropLast else line

def newlinePieces : List Char → List (List Char)
  | [] => []
  | c :: cs =>
    if c = '\n' then [c] :: newlinePieces cs
    else match newlinePieces cs with
      | [] => [[c]]
      | line :: lines => (c :: line) :: lines

/-- Pieces that end after a newline, a carriage return or the two together. -/
def terminatedLines : List Char → List (List Char)
  | [] => []
  | '\r' :: '\n' :: cs => ['\r', '\n'] :: terminatedLines cs
  | c :: cs =>
    if c = '\n' ∨ c = '\r' then [c] :: terminatedLines cs
    else match terminatedLines cs with
      | [] => [[c]]
      | line :: lines => (c :: line) :: lines

end Mender.Text
