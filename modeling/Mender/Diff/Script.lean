import Mender.Diff.Edit

namespace Mender.Diff

structure Best where
  kept : Nat
  script : List Edit
  deriving Repr, Inhabited

namespace Best

def keep (l : Line) (b : Best) : Best := ⟨b.kept + 1, .keep l :: b.script⟩

def delete (l : Line) (b : Best) : Best := ⟨b.kept, .delete l :: b.script⟩

def insert (l : Line) (b : Best) : Best := ⟨b.kept, .insert l :: b.script⟩

def pick (a b : Best) : Best := if a.kept < b.kept then b else a

end Best

def insertions : List Line → List Best
  | [] => [⟨0, []⟩]
  | l :: ls =>
    let row := insertions ls
    (row.headD default).insert l :: row

/-- From the best scripts from some lines to every suffix of `new`, those from one line more. -/
def extend (a : Line) : List Line → List Best → List Best
  | l :: ls, b :: below =>
    let row := extend a ls below
    let next :=
      if a = l then (below.headD default).keep a
      else ((b.delete a).pick ((row.headD default).insert l))
    next :: row
  | _, below => [(below.headD default).delete a]

def rows (old new : List Line) : List Best :=
  match old with
  | [] => insertions new
  | a :: old => extend a new (rows old new)

/-- A script with the fewest edits; between kept lines deletions come first. -/
def script : LineDiff := fun old new => ((rows old new).headD default).script

end Mender.Diff
