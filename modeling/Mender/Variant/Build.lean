import Mender.Variant.Assignment

namespace Mender.Variant

open Syntax Hotspot

inductive BuildError where
  | incomplete (hotspot : Nat)
  | invalidChoice (hotspot choice available : Nat)
  | cyclic (hotspot : Nat)
  deriving DecidableEq, Repr, Inhabited

def BuildError.message : BuildError → String
  | incomplete hotspot => s!"Assignment has no alternative for hotspot #{hotspot}"
  | invalidChoice hotspot choice available =>
    s!"Alternative {choice} is out of range for hotspot #{hotspot} ({available} available)"
  | cyclic hotspot => s!"Hotspot #{hotspot} contains itself"

def fillHoles (fill : Nat → Except BuildError Node) : Children → Except BuildError Children
  | .nil => .ok .nil
  | .token f t rest => do return .token f t (← fillHoles fill rest)
  | .hole f i rest => do
    let n ← fill i
    return .node f n.kind n.span n.children (← fillHoles fill rest)
  | .node f k s below rest => do
    let below ← if below.hasHoles then fillHoles fill below else pure below
    return .node f k s below (← fillHoles fill rest)

/-- The node that the assignment chooses for a hotspot, `levels` bounding the nesting. -/
def resolve (t : Template) (a : Assignment) (levels id : Nat) : Except BuildError Node :=
  match t.hotspot? id with
  | none => .error (.incomplete id)
  | some h =>
    match levels with
    | 0 => .error (.cyclic id)
    | levels + 1 => do
      let children ← fillHoles (resolve t a levels) h.node.children
      match a.choice? id with
      | none => .error (.incomplete id)
      | some choice =>
        match h.kind.alternatives[choice]? with
        | none => .error (.invalidChoice id choice h.kind.width)
        | some alternative => return alternative.apply (h.node.update children)

def resolveHotspot (t : Template) (a : Assignment) (id : Nat) : Except BuildError Node :=
  resolve t a t.hotspots.length id

def build (t : Template) (a : Assignment) : Except BuildError Node := do
  return t.root.update (← fillHoles (resolveHotspot t a) t.root.children)

end Mender.Variant
