import Mender.Files.Disk
import Mender.Machine.Text.Glob
import Mender.Machine.Text.Octets

namespace Mender.Machine.Shell

open Files Machine.Text

def closesBracket (gs : List Glyph) : Bool :=
  let inner := if gs.head? = some ('!', false) then gs.tail else gs
  inner.tail.any (· = (']', false))

def isGlob : List Glyph → Bool
  | [] => false
  | (c, quoted) :: gs =>
    (!quoted && (c = '*' || c = '?' || (c = '[' && closesBracket gs))) || isGlob gs

def namesIn (files : Disk) (p : Place) : List String :=
  let names := files.entries.filterMap fun (q, _) =>
    if q.dropLast = p ∧ q ≠ [] then q.getLast?.map Text.encode else none
  "." :: ".." :: names

/-- The names in a directory that a pattern accepts; a dot in front is matched by a dot only. -/
def matchingNames (files : Disk) (dir : String) (gs : List Glyph) : List String :=
  match files.directory (if dir = "" then "." else Text.decode dir) with
  | .error _ => []
  | .ok p => (namesIn files p).filter fun name =>
      globMatches (globOf gs) name.toList &&
        (!name.startsWith "." || (takeGlyph gs).any (·.1 = '.'))

def matchingPaths (files : Disk) : Nat → String → List Glyph → List String
  | 0, _, _ => []
  | fuel + 1, dir, gs =>
    let component := gs.takeWhile (·.1 ≠ '/')
    let names := if isGlob component then matchingNames files dir component
      else match globOf component with
        | items => [String.ofList (items.filterMap fun
            | .literal c => some c
            | _ => none)]
    match gs.drop component.length with
    | [] => (names.map (dir ++ ·)).filter fun path =>
        isGlob component || files.exists? (Text.decode path)
    | _ :: rest => names.flatMap fun name => matchingPaths files fuel (dir ++ name ++ "/") rest

def expandPaths (files : Disk) (gs : List Glyph) : List String :=
  if (gs.splitOnP (·.1 = '/')).any isGlob then
    match matchingPaths files (gs.length + 1) "" gs with
    | [] => [textOf gs]
    | paths => paths.mergeSort (· ≤ ·)
  else [textOf gs]

end Mender.Machine.Shell
