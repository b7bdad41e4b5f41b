import Mender.Hotspot.Template

namespace Mender.Variant

open Hotspot

structure Assignment where
  choices : List (Option Nat)
  deriving DecidableEq, Repr, Inhabited

namespace Assignment

def empty (slots : Nat) : Assignment := ⟨.replicate slots none⟩

def choice? (a : Assignment) (id : Nat) : Option Nat := a.choices[id]?.join

/-- Grows the list when `id` lies past its end. -/
def set (a : Assignment) (id alternative : Nat) : Assignment :=
  ⟨(a.choices ++ .replicate (id + 1 - a.choices.length) none).set id (some alternative)⟩

def toList (a : Assignment) : List (Nat × Nat) :=
  a.choices.zipIdx.filterMap fun (c, id) => c.map (id, ·)

def isTotal (a : Assignment) (t : Template) : Bool := t.preorder.all fun id => (a.choice? id).isSome

end Assignment

end Mender.Variant
