import Mathlib.Data.List.Perm.Basic
import Mathlib.Data.List.Range
import Mender.Hotspot.Detect
import Mender.Proofs.Hotspot.Catalog

namespace Mender.Hotspot

open Syntax

def hotspotCount (cs : Children) : Nat := cs.nodes.countP fun n => (Kind.of? n).isSome

@[simp] theorem hotspotCount_nil : hotspotCount .nil = 0 := rfl

@[simp] theorem hotspotCount_token (f : Option String) (t : Token) (rest : Children) :
    hotspotCount (.token f t rest) = hotspotCount rest := rfl

@[simp] theorem hotspotCount_hole (f : Option String) (i : Nat) (rest : Children) :
    hotspotCount (.hole f i rest) = hotspotCount rest := rfl

section Node

variable {f : Option String} {k : String} {s : Option Span} {below : Children} {kind : Kind}

theorem hotspotCount_plain (h : Kind.of? ⟨k, s, below⟩ = none) (rest : Children) :
    hotspotCount (.node f k s below rest) = hotspotCount below + hotspotCount rest := by
  simp [hotspotCount, Children.nodes, h]

theorem hotspotCount_match (h : Kind.of? ⟨k, s, below⟩ = some kind) (rest : Children) :
    hotspotCount (.node f k s below rest) = hotspotCount below + 1 + hotspotCount rest := by
  simp only [hotspotCount, Children.nodes, List.countP_cons, List.countP_append, h,
    Option.isSome_some, if_true]
  omega

end Node

theorem length_cut (next : Nat) (cs : Children) :
    (cut next cs).hotspots.length = hotspotCount cs := by
  induction cs generalizing next with
  | nil => rfl
  | token f t rest ih => simp [cut, ih]
  | hole f i rest ih => simp [cut, ih]
  | node f k s below rest ihb ihr =>
    cases h : Kind.of? ⟨k, s, below⟩ with
    | none => simp [cut, h, hotspotCount_plain h, ihb, ihr]
    | some kind =>
      simp only [cut, h, hotspotCount_match h, List.length_append, List.length_cons, ihb, ihr]
      omega

section Node

variable {f : Option String} {k : String} {s : Option Span} {below : Children} {kind : Kind}

theorem cut_plain (h : Kind.of? ⟨k, s, below⟩ = none) (next : Nat) (rest : Children) :
    cut next (.node f k s below rest) =
      let b := cut next below
      let r := cut (next + hotspotCount below) rest
      ⟨.node f k s b.children r.children, b.hotspots ++ r.hotspots, b.top ++ r.top⟩ := by
  simp [cut, h, length_cut]

theorem cut_match (h : Kind.of? ⟨k, s, below⟩ = some kind) (next : Nat) (rest : Children) :
    cut next (.node f k s below rest) =
      let b := cut next below
      let id := next + hotspotCount below
      let r := cut (id + 1) rest
      ⟨.hole f id r.children, b.hotspots ++ ⟨kind, ⟨k, s, b.children⟩, b.top⟩ :: r.hotspots,
        id :: r.top⟩ := by
  simp [cut, h, length_cut]

end Node

theorem fieldToken?_cut (name : String) (next : Nat) (cs : Children) :
    (cut next cs).children.fieldToken? name = cs.fieldToken? name := by
  induction cs generalizing next with
  | nil => rfl
  | token f t rest ih => simp [cut, ih]
  | hole f i rest ih => simp [cut, ih]
  | node f k s below rest _ ih =>
    cases h : Kind.of? ⟨k, s, below⟩ with
    | none => simp [cut_plain h, ih]
    | some kind => simp [cut_match h, ih]

namespace Template

def Stores (t : Template) (next : Nat) (hs : List Hotspot) : Prop :=
  ∀ i h, hs[i]? = some h → t.hotspot? (next + i) = some h

theorem stores_nil (t : Template) (next : Nat) : t.Stores next [] := by
  intro i h hi
  simp at hi

theorem stores_cons {t : Template} {next : Nat} {h : Hotspot} {hs : List Hotspot} :
    t.Stores next (h :: hs) ↔ t.hotspot? next = some h ∧ t.Stores (next + 1) hs := by
  constructor
  · intro hst
    refine ⟨hst 0 h rfl, fun i g hi => ?_⟩
    rw [Nat.add_right_comm]
    exact hst (i + 1) g hi
  · rintro ⟨h0, hst⟩ i g hi
    cases i with
    | zero => rw [← Option.some.inj hi]; exact h0
    | succ i => rw [← Nat.add_assoc, Nat.add_right_comm]; exact hst i g hi

theorem stores_append {t : Template} {next : Nat} {hs gs : List Hotspot} :
    t.Stores next (hs ++ gs) ↔ t.Stores next hs ∧ t.Stores (next + hs.length) gs := by
  induction hs generalizing next with
  | nil => simp [stores_nil]
  | cons h hs ih =>
    rw [List.cons_append, stores_cons, stores_cons, ih, and_assoc, List.length_cons,
      Nat.add_assoc, Nat.add_comm 1]

theorem stores_detect (T : Node) : (detect T).Stores 0 (cut 0 T.children).hotspots := by
  intro i h hi
  rw [Nat.zero_add]
  exact hi

section Node

variable {t : Template} {next : Nat} {f : Option String} {k : String} {s : Option Span}
  {below rest : Children} {kind : Kind}

theorem stores_plain (h : Kind.of? ⟨k, s, below⟩ = none)
    (hst : t.Stores next (cut next (.node f k s below rest)).hotspots) :
    t.Stores next (cut next below).hotspots ∧
      t.Stores (next + hotspotCount below) (cut (next + hotspotCount below) rest).hotspots := by
  rw [cut_plain h] at hst
  simpa only [stores_append, length_cut] using hst

theorem stores_match (h : Kind.of? ⟨k, s, below⟩ = some kind)
    (hst : t.Stores next (cut next (.node f k s below rest)).hotspots) :
    t.Stores next (cut next below).hotspots ∧
      t.hotspot? (next + hotspotCount below) =
        some ⟨kind, ⟨k, s, (cut next below).children⟩, (cut next below).top⟩ ∧
      t.Stores (next + hotspotCount below + 1)
        (cut (next + hotspotCount below + 1) rest).hotspots := by
  rw [cut_match h] at hst
  simpa only [stores_append, stores_cons, length_cut] using hst

end Node

theorem exists_captured {t : Template} {next id : Nat} {cs : Children}
    (hst : t.Stores next (cut next cs).hotspots) (hge : next ≤ id)
    (hlt : id < next + hotspotCount cs) :
    ∃ n ∈ cs.nodes, ∃ kind start, Kind.of? n = some kind ∧ id = start + hotspotCount n.children ∧
      t.hotspot? id = some ⟨kind, n.update (cut start n.children).children,
        (cut start n.children).top⟩ ∧
      t.Stores start (cut start n.children).hotspots := by
  induction cs generalizing next with
  | nil => rw [hotspotCount_nil] at hlt; omega
  | token f u rest ih => exact ih hst hge hlt
  | hole f i rest ih => exact ih hst hge hlt
  | node f k s below rest ihb ihr =>
    cases h : Kind.of? ⟨k, s, below⟩ with
    | none =>
      obtain ⟨hb, hr⟩ := stores_plain h hst
      rw [hotspotCount_plain h] at hlt
      by_cases hid : id < next + hotspotCount below
      · obtain ⟨n, hn, hcaptured⟩ := ihb hb hge hid
        exact ⟨n, by simp [Children.nodes, hn], hcaptured⟩
      · obtain ⟨n, hn, hcaptured⟩ := ihr hr (by omega) (by omega)
        exact ⟨n, by simp [Children.nodes, hn], hcaptured⟩
    | some kind =>
      obtain ⟨hb, hown, hr⟩ := stores_match h hst
      rw [hotspotCount_match h] at hlt
      rcases Nat.lt_trichotomy id (next + hotspotCount below) with hid | hid | hid
      · obtain ⟨n, hn, hcaptured⟩ := ihb hb hge hid
        exact ⟨n, by simp [Children.nodes, hn], hcaptured⟩
      · subst hid
        exact ⟨⟨k, s, below⟩, by simp [Children.nodes], kind, next, h, rfl, hown, hb⟩
      · obtain ⟨n, hn, hcaptured⟩ := ihr hr hid (by omega)
        exact ⟨n, by simp [Children.nodes, hn], hcaptured⟩

end Template

def listing (next depth : Nat) : Children → List (Nat × Nat)
  | .nil => []
  | .token _ _ rest => listing next depth rest
  | .hole _ _ rest => listing next depth rest
  | .node _ k s below rest =>
    let id := next + hotspotCount below
    match Kind.of? ⟨k, s, below⟩ with
    | none => listing next depth below ++ listing id depth rest
    | some _ => (id, depth) :: (listing next (depth + 1) below ++ listing (id + 1) depth rest)

theorem listing_perm (next depth : Nat) (cs : Children) :
    ((listing next depth cs).map (·.1)).Perm (List.range' next (hotspotCount cs)) := by
  induction cs generalizing next depth with
  | nil => exact .refl _
  | token f t rest ih => exact ih next depth
  | hole f i rest ih => exact ih next depth
  | node f k s below rest ihb ihr =>
    cases h : Kind.of? ⟨k, s, below⟩ with
    | none =>
      simp only [listing, h, hotspotCount_plain h, List.map_append, ← List.range'_append_1]
      exact (ihb next depth).append (ihr _ depth)
    | some kind =>
      simp only [listing, h, hotspotCount_match h, List.map_cons, List.map_append,
        ← List.range'_append_1, List.range'_one]
      have hb := ihb next (depth + 1)
      have hr := ihr (next + hotspotCount below + 1) depth
      rw [List.append_assoc, List.singleton_append, ← Nat.add_assoc]
      exact ((hb.append hr).cons _).trans List.perm_middle.symm

namespace Template

/-- The levels that may lie below an id suffice as long as they are not fewer than the ids up to
it, for all that is nested in a hotspot has smaller ids. -/
theorem visit_cut {t : Template} {next levels : Nat} {cs : Children}
    (hst : t.Stores next (cut next cs).hotspots) (hl : next + hotspotCount cs ≤ levels)
    (depth : Nat) (stack : List Pending) :
    t.visit ((cut next cs).top.map (⟨·, depth, levels⟩) ++ stack) =
      listing next depth cs ++ t.visit stack := by
  induction cs generalizing next levels depth stack with
  | nil => rfl
  | token f u rest ih => exact ih hst hl depth stack
  | hole f i rest ih => exact ih hst hl depth stack
  | node f k s below rest ihb ihr =>
    cases h : Kind.of? ⟨k, s, below⟩ with
    | none =>
      obtain ⟨hb, hr⟩ := stores_plain h hst
      rw [hotspotCount_plain h] at hl
      simp only [cut_plain h, listing, h, List.map_append, List.append_assoc]
      rw [ihb hb (by omega), ihr hr (by omega)]
    | some kind =>
      obtain ⟨hb, hid, hr⟩ := stores_match h hst
      rw [hotspotCount_match h] at hl
      obtain ⟨levels', rfl⟩ : ∃ m, levels = m + 1 := ⟨levels - 1, by omega⟩
      have hbelow : t.below ⟨next + hotspotCount below, depth, levels' + 1⟩ =
          (cut next below).top.map (⟨·, depth + 1, levels'⟩) := by
        simp [Template.below, childrenOf, hid]
      simp only [cut_match h, listing, h, List.map_cons, List.cons_append, List.append_assoc]
      rw [visit, hbelow, ihb hb (by omega), ihr hr (by omega)]

theorem preorderWithDepth_detect (T : Node) :
    (detect T).preorderWithDepth = listing 0 0 T.children := by
  have hl : 0 + hotspotCount T.children ≤ (detect T).hotspots.length := by
    simp [detect, length_cut]
  have h := visit_cut (stores_detect T) hl 0 []
  rw [List.append_nil, visit, List.append_nil] at h
  exact h

theorem length_detect (T : Node) : (detect T).hotspots.length = hotspotCount T.children :=
  length_cut 0 T.children

theorem hotspot_detect {T : Node} {id : Nat} {h : Hotspot} (hid : (detect T).hotspot? id = some h) :
    ∃ n ∈ T.children.nodes, ∃ start, Kind.of? n = some h.kind ∧
      id = start + hotspotCount n.children ∧ h.node = n.update (cut start n.children).children ∧
      h.children = (cut start n.children).top ∧
      (detect T).Stores start (cut start n.children).hotspots := by
  have hlen : id < (detect T).hotspots.length := (List.getElem?_eq_some_iff.mp hid).1
  rw [length_detect] at hlen
  obtain ⟨n, hn, kind, start, hkind, hblock, hstored, hst⟩ :=
    exists_captured (stores_detect T) (Nat.zero_le id) (by omega)
  rw [hid] at hstored
  obtain rfl := Option.some.inj hstored
  exact ⟨n, hn, start, hkind, hblock, rfl, rfl, hst⟩

theorem preorder_detect_perm (T : Node) :
    (detect T).preorder.Perm (List.range (detect T).hotspots.length) := by
  rw [preorder, preorderWithDepth_detect, length_detect, List.range_eq_range']
  exact listing_perm 0 0 T.children

theorem mem_preorder_detect {T : Node} {id : Nat} :
    id ∈ (detect T).preorder ↔ id < (detect T).hotspots.length := by
  rw [(preorder_detect_perm T).mem_iff, List.mem_range]

theorem nodup_preorder_detect (T : Node) : (detect T).preorder.Nodup :=
  (preorder_detect_perm T).nodup_iff.mpr List.nodup_range

end Template

/-- The tree of `xs.select do x>3 end.empty?`: a comparison in a filter in a predicate. -/
def nested : Node :=
  ⟨"program", some ⟨0, 27⟩,
    .node none "call" (some ⟨0, 27⟩)
      (.node (some "receiver") "call" (some ⟨0, 20⟩)
        (.token (some "receiver") ⟨"identifier", "xs"⟩ <|
          .token (some "operator") ⟨".", "."⟩ <|
          .token (some "method") ⟨"identifier", "select"⟩ <|
          .token none ⟨trivia, " "⟩ <|
          .node (some "block") "do_block" (some ⟨10, 20⟩)
            (.token none ⟨"do", "do"⟩ <|
              .token none ⟨trivia, " "⟩ <|
              .node none "binary" (some ⟨13, 16⟩)
                (.token (some "left") ⟨"identifier", "x"⟩ <|
                  .token (some "operator") ⟨">", ">"⟩ <|
                  .token (some "right") ⟨"integer", "3"⟩ .nil) <|
              .token none ⟨trivia, " "⟩ <|
              .token none ⟨"end", "end"⟩ .nil) .nil) <|
        .token (some "operator") ⟨".", "."⟩ <|
        .token (some "method") ⟨"identifier", "empty?"⟩ .nil) .nil⟩

end Mender.Hotspot
