import Mathlib.Data.List.Pairwise
import Mender.Proofs.Syntax.Lower

namespace Mender.Syntax

open Text

def Node.Stands (source : List Char) (n : Node) : Prop :=
  ∃ front back, source = front ++ n.text.toList ++ back ∧
    n.span = some ⟨byteLength front, byteLength (front ++ n.text.toList)⟩

theorem Node.Stands.slice? {source : List Char} {n : Node} {span : Span} (h : n.Stands source)
    (hspan : n.span = some span) :
    Text.slice? source span.start span.stop = some n.text.toList := by
  obtain ⟨front, back, rfl, hplace⟩ := h
  rw [hspan] at hplace
  rw [Option.some.inj hplace]
  exact slice?_of_append front n.text.toList back

def Node.StartsBy (m n : Node) : Prop := ∀ s ∈ m.span, ∀ t ∈ n.span, s.start ≤ t.start

structure Sited (source : List Char) (start stop : Nat) (ns : List Node) : Prop where
  stands : ∀ n ∈ ns, n.Stands source
  within : ∀ n ∈ ns, ∀ s ∈ n.span, start ≤ s.start ∧ s.start ≤ stop
  ordered : ns.Pairwise Node.StartsBy

namespace Sited

variable {source : List Char} {start middle stop : Nat} {ns ms : List Node}

theorem nil : Sited source start stop [] :=
  ⟨List.forall_mem_nil _, List.forall_mem_nil _, List.Pairwise.nil⟩

theorem mono {start' stop' : Nat} (h : Sited source start stop ns) (hstart : start' ≤ start)
    (hstop : stop ≤ stop') : Sited source start' stop' ns := by
  refine ⟨h.stands, fun n hn s hs => ?_, h.ordered⟩
  have := h.within n hn s hs
  omega

theorem append (hn : Sited source start middle ns) (hm : Sited source middle stop ms)
    (hstart : start ≤ middle) (hstop : middle ≤ stop) : Sited source start stop (ns ++ ms) := by
  have hn' := hn.mono (Nat.le_refl _) hstop
  have hm' := hm.mono hstart (Nat.le_refl _)
  constructor
  · exact List.forall_mem_append.mpr ⟨hn'.stands, hm'.stands⟩
  · exact List.forall_mem_append.mpr ⟨hn'.within, hm'.within⟩
  · rw [List.pairwise_append]
    refine ⟨hn.ordered, hm.ordered, ?_⟩
    intro n hns m hms s hs t ht
    have h1 := hn.within n hns s hs
    have h2 := hm.within m hms t ht
    omega

theorem cons {n : Node} {end' : Nat} (hn : n.Stands source) (hspan : n.span = some ⟨start, end'⟩)
    (h : Sited source start stop ns) (hle : start ≤ stop) : Sited source start stop (n :: ns) := by
  have hown : ∀ s ∈ n.span, s.start = start := by
    intro s hs
    rw [hspan] at hs
    rw [← Option.some.inj hs]
  constructor
  · exact List.forall_mem_cons.mpr ⟨hn, h.stands⟩
  · rw [List.forall_mem_cons]
    refine ⟨fun s hs => ?_, h.within⟩
    rw [hown s hs]
    exact ⟨Nat.le_refl _, hle⟩
  · apply List.pairwise_cons.mpr
    refine ⟨fun m hm s hs t ht => ?_, h.ordered⟩
    rw [hown s hs]
    exact (h.within m hm t ht).1

end Sited

section Source

variable {source : List Char}

theorem nodes_gap (start stop : Nat) (rest : Children) :
    (gap source start stop rest).nodes = rest.nodes := by
  unfold gap
  split
  · cases slice? source start stop <;> rfl
  · rfl

theorem nodes_append (cs r : Children) : (cs ++ r).nodes = cs.nodes ++ r.nodes := by
  induction cs with
  | nil => rfl
  | token f t rest ih => exact ih
  | hole f i rest ih => exact ih
  | node f k s below rest _ ih => simp [Children.nodes, ih]

theorem stands_lower {r : Row} {below : Rows} (hr : r.Placed source)
    (hbelow : ∀ x ∈ below.toList, x.Placed source) (ho : below.Orderly r.start r.stop) :
    Node.Stands source ⟨r.kind, some ⟨r.start, r.stop⟩, below.lower source r.start r.stop⟩ := by
  obtain ⟨front, back, hsource, hstart, hstop⟩ := exists_between hr.start hr.stop hr.ordered
  have htext := text_lower_orderly hbelow hr.start hr.stop ho
  refine ⟨front, back, ?_, ?_⟩
  · rw [Node.text_eq, htext]
    exact hsource
  · rw [Node.text_eq, htext, hstart, hstop]

theorem sited_lower {rows : Rows} {start stop : Nat} (hrows : ∀ r ∈ rows.toList, r.Placed source)
    (ho : rows.Orderly start stop) :
    Sited source start stop (rows.lower source start stop).nodes := by
  induction rows generalizing start stop with
  | nil =>
    rw [Rows.lower, nodes_gap]
    exact .nil
  | cons r below rest ihb ihr =>
    rw [Rows.toList, List.forall_mem_cons, List.forall_mem_append] at hrows
    obtain ⟨hr, hbelow, hrest⟩ := hrows
    obtain ⟨hstart, hob, hor⟩ := ho
    have hmax : max start r.stop = r.stop := Nat.max_eq_right (hstart.trans hr.ordered)
    have hb := ihb hbelow hob
    have ht := ihr hrest hor
    cases below with
    | nil =>
      rw [Rows.lower, nodes_gap, hmax]
      exact ht.mono (hstart.trans hr.ordered) (Nat.le_refl _)
    | cons r' below' rest' =>
      have hnode := Sited.cons (stands_lower hr hbelow hob) rfl hb hr.ordered
      rw [Rows.lower, nodes_gap, hmax]
      exact (hnode.append ht hr.ordered hor.le).mono hstart (Nat.le_refl _)

theorem nodes_parsed (p : Parsed) : (p.lower source).children.nodes =
    (p.below.lower source p.root.start p.root.stop).nodes := by
  rw [Parsed.lower]
  split
  · rfl
  · simp [nodes_gap, nodes_append, Children.nodes]

theorem sited_parsed {p : Parsed} (hp : ∀ r ∈ p.toList, r.Placed source) (ho : p.Orderly) :
    Sited source p.root.start p.root.stop (p.lower source).children.nodes := by
  rw [nodes_parsed]
  exact sited_lower (List.forall_mem_cons.mp hp).2 ho

end Source

end Mender.Syntax
