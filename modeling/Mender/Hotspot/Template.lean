import Mender.Hotspot.Kind

namespace Mender.Hotspot

open Syntax

structure Hotspot where
  kind : Kind
  node : Node
  /-- The hotspots nested directly in this one, in source order. -/
  children : List Nat
  deriving DecidableEq, Repr, Inhabited

structure Template where
  root : Node
  hotspots : List Hotspot
  roots : List Nat
  deriving DecidableEq, Repr, Inhabited

namespace Template

def hotspot? (t : Template) (id : Nat) : Option Hotspot := t.hotspots[id]?

def childrenOf (t : Template) (id : Nat) : List Nat :=
  match t.hotspot? id with
  | some h => h.children
  | none => []

def total : List Nat → Nat
  | [] => 0
  | n :: ns => n + total ns

theorem total_append (ms ns : List Nat) : total (ms ++ ns) = total ms + total ns := by
  induction ms with
  | nil => simp [total]
  | cons m ms ih => simp [total, ih, Nat.add_assoc]

/-- How many entries a walk from `id` lists when it descends at most `depth` levels. -/
def extent (t : Template) : Nat → Nat → Nat
  | 0, _ => 1
  | depth + 1, id => 1 + total ((t.childrenOf id).map (t.extent depth))

/-- A pending hotspot, the depth it stands at and the levels that may lie below it. -/
structure Pending where
  id : Nat
  depth : Nat
  levels : Nat

def below (t : Template) (p : Pending) : List Pending :=
  match p.levels with
  | 0 => []
  | levels + 1 => (t.childrenOf p.id).map (⟨·, p.depth + 1, levels⟩)

def pendingExtent (t : Template) (stack : List Pending) : Nat :=
  total (stack.map fun p => t.extent p.levels p.id)

theorem pendingExtent_below (t : Template) (p : Pending) (stack : List Pending) :
    t.pendingExtent (t.below p ++ stack) < t.pendingExtent (p :: stack) := by
  obtain ⟨id, depth, levels⟩ := p
  cases levels with
  | zero => simp [pendingExtent, below, extent, total]
  | succ levels => simp [pendingExtent, below, extent, total, total_append, Function.comp_def]

def visit (t : Template) : List Pending → List (Nat × Nat)
  | [] => []
  | p :: stack => (p.id, p.depth) :: t.visit (t.below p ++ stack)
termination_by stack => t.pendingExtent stack
decreasing_by exact t.pendingExtent_below p stack

/-- Every hotspot with its nesting depth, outermost first, in source order. Nesting is never
deeper than the number of hotspots unless a hotspot lies in itself. -/
def preorderWithDepth (t : Template) : List (Nat × Nat) :=
  t.visit (t.roots.map (⟨·, 0, t.hotspots.length⟩))

def preorder (t : Template) : List Nat := t.preorderWithDepth.map (·.1)

def sizeLimit : Nat := 0xffffffffffffffffffffffffffffffff

/-- The number of variants, or the limit if there are more. -/
def spaceSize (t : Template) : Nat :=
  (t.preorder.filterMap t.hotspot?).foldl (fun n h => min (n * h.kind.width) sizeLimit) 1

end Template

end Mender.Hotspot
