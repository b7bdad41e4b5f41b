namespace Mender.Text

/-- Replaces from left to right; the first `skip` characters are dropped. -/
def replaceFrom (pattern new : List Char) : Nat → List Char → List Char
  | _, [] => []
  | skip + 1, _ :: cs => replaceFrom pattern new skip cs
  | 0, c :: cs =>
    if pattern.isPrefixOf (c :: cs) then new ++ replaceFrom pattern new (pattern.length - 1) cs
    else c :: replaceFrom pattern new 0 cs

def replace (pattern new s : String) : String :=
  .ofList (replaceFrom pattern.toList new.toList 0 s.toList)

end Mender.Text
