import Mender.Hotspot.Template

/-!
Cuts the hotspots out of a tree. What lies below a matching node is cut first, so ids count the
matching nodes in post-order and the holes of a captured node are its nested hotspots.
-/

namespace Mender.Hotspot

open Syntax

structure Cut where
  children : Children
  hotspots : List Hotspot
  /-- Those that lie in no other, in source order. -/
  top : List Nat

def cut (next : Nat) : Children → Cut
  | .nil => ⟨.nil, [], []⟩
  | .token f t rest =>
    let r := cut next rest
    ⟨.token f t r.children, r.hotspots, r.top⟩
  | .hole f i rest =>
    let r := cut next rest
    ⟨.hole f i r.children, r.hotspots, r.top⟩
  | .node f k s below rest =>
    let b := cut next below
    let id := next + b.hotspots.length
    match Kind.of? ⟨k, s, below⟩ with
    | none =>
      let r := cut id rest
      ⟨.node f k s b.children r.children, b.hotspots ++ r.hotspots, b.top ++ r.top⟩
    | some kind =>
      let r := cut (id + 1) rest
      ⟨.hole f id r.children, b.hotspots ++ ⟨kind, ⟨k, s, b.children⟩, b.top⟩ :: r.hotspots,
        id :: r.top⟩

/-- The template of a tree; the root itself is never cut out. -/
def detect (tree : Node) : Template :=
  let c := cut 0 tree.children
  ⟨tree.update c.children, c.hotspots, c.top⟩

end Mender.Hotspot
