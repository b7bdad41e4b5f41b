import Mender.Proofs.Text.Marks
import Mender.Proofs.Variant.Enumeration
import Mender.Proofs.Variant.Pieces

/-!
No two assignments give one text. Whatever is chosen, each piece of the text holds the same number
of question marks and angle brackets, so the texts of two assignments can be compared at these:
first the negations, by the parentheses before each method name, then the comparisons from the last
to the first, and then all other selectors from the first to the last.
-/

namespace Mender.Hotspot

def isMark (c : Char) : Bool := c = '?' || c = '<' || c = '>'

def isSign (c : Char) : Bool := c = '=' || c = '!'

namespace Kind

theorem countP_isMark_selectors (kind : Kind) :
    ∀ s ∈ kind.selectors, ∀ s' ∈ kind.selectors,
      s.toList.countP isMark = s'.toList.countP isMark := by
  cases kind <;> decide

theorem countP_isSign_selectors {kind : Kind} (hk : kind ≠ comparison) :
    ∀ s ∈ kind.selectors, ∀ s' ∈ kind.selectors,
      s.toList.countP isSign = s'.toList.countP isSign := by
  cases kind with
  | comparison => exact absurd rfl hk
  | equality | predicate | filter | quantifier => decide

theorem count_paren_selectors {kind : Kind} {s : String} (hs : s ∈ kind.selectors) :
    s.toList.count '(' = 0 ∧ s.toList.count ')' = 0 := by
  revert s
  cases kind <;> decide

theorem prefixFree_selectors {kind : Kind} (hk : kind ≠ comparison) :
    ∀ s ∈ kind.selectors, ∀ s' ∈ kind.selectors, s.toList <+: s'.toList → s = s' := by
  cases kind with
  | comparison => exact absurd rfl hk
  | equality | predicate | filter | quantifier => decide

theorem toList_of_mem_comparison {s : String} (hs : s ∈ comparison.selectors) :
    ∃ x v, s.toList = x :: v ∧ isMark x = true ∧ (v = [] ∨ v = ['=']) := by
  simp only [selectors, List.mem_cons, List.not_mem_nil, or_false] at hs
  rcases hs with rfl | rfl | rfl | rfl
  · exact ⟨'>', [], rfl, rfl, Or.inl rfl⟩
  · exact ⟨'>', ['='], rfl, rfl, Or.inr rfl⟩
  · exact ⟨'<', [], rfl, rfl, Or.inl rfl⟩
  · exact ⟨'<', ['='], rfl, rfl, Or.inr rfl⟩

end Kind

end Mender.Hotspot

namespace Mender.Variant

open Syntax Hotspot

namespace Piece

variable {a b : Assignment} {id : Nat} {kind : Kind} {text : String}

def chars (a : Assignment) (p : Piece) : List Char := (p.under a).toList

theorem chars_opening :
    (opening id).chars a = if a.choice? id = some 1 then ['(', '!'] else [] := by
  rw [chars, under]
  split <;> rfl

theorem chars_closing : (closing id).chars a = if a.choice? id = some 1 then [')'] else [] := by
  rw [chars, under]
  split <;> rfl

def Fits (a : Assignment) : Piece → Prop
  | selector id kind _ => ∃ s ∈ kind.selectors, a.selector? id kind = some s
  | _ => True

theorem Fits.chars (h : (selector id kind text).Fits a) :
    ∃ s ∈ kind.selectors, a.selector? id kind = some s ∧
      (selector id kind text).chars a = s.toList := by
  obtain ⟨s, hs, ha⟩ := h
  have hchoice : (a.choice? id).bind (kind.selectors[·]?) = some s := ha
  refine ⟨s, hs, ha, ?_⟩
  rw [Piece.chars, under, hchoice]
  rfl

theorem Fits.comparison (h : (selector id .comparison text).Fits a) :
    ∃ x v, isMark x = true ∧ (selector id .comparison text).chars a = [] ++ x :: v ∧
      (v = [] ∨ v = ['=']) := by
  obtain ⟨s, hs, -, hchars⟩ := h.chars
  obtain ⟨x, v, hsv, hx, hv⟩ := Kind.toList_of_mem_comparison hs
  exact ⟨x, v, hx, hchars.trans hsv, hv⟩

theorem countP_selector {marked : Char → Bool} (ha : (selector id kind text).Fits a)
    (hb : (selector id kind text).Fits b)
    (table : ∀ s ∈ kind.selectors, ∀ s' ∈ kind.selectors,
      s.toList.countP marked = s'.toList.countP marked) :
    ((selector id kind text).chars a).countP marked =
      ((selector id kind text).chars b).countP marked := by
  obtain ⟨s, hs, -, hchars⟩ := ha.chars
  obtain ⟨s', hs', -, hchars'⟩ := hb.chars
  rw [hchars, hchars']
  exact table s hs s' hs'

theorem iff_of_count_ite {P Q : Prop} [Decidable P] [Decidable Q] {c : Char} {cs : List Char}
    (hc : 0 < cs.count c)
    (h : (if P then cs else []).count c = (if Q then cs else []).count c) : P ↔ Q := by
  by_cases hp : P
  · by_cases hq : Q
    · exact iff_of_true hp hq
    · rw [if_pos hp, if_neg hq, List.count_nil] at h
      omega
  · by_cases hq : Q
    · rw [if_neg hp, if_pos hq, List.count_nil] at h
      omega
    · exact iff_of_false hp hq

theorem negates_iff_of_opening
    (h : ((opening id).chars a).count '(' = ((opening id).chars b).count '(') :
    a.choice? id = some 1 ↔ b.choice? id = some 1 := by
  rw [chars_opening, chars_opening] at h
  exact iff_of_count_ite (by decide) h

theorem negates_iff_of_closing
    (h : ((closing id).chars a).count ')' = ((closing id).chars b).count ')') :
    a.choice? id = some 1 ↔ b.choice? id = some 1 := by
  rw [chars_closing, chars_closing] at h
  exact iff_of_count_ite (by decide) h

theorem chars_opening_congr (h : a.choice? id = some 1 ↔ b.choice? id = some 1) :
    (opening id).chars a = (opening id).chars b := by
  simp only [chars_opening, h]

theorem chars_closing_congr (h : a.choice? id = some 1 ↔ b.choice? id = some 1) :
    (closing id).chars a = (closing id).chars b := by
  simp only [chars_closing, h]

def Balanced (a b : Assignment) (p : Piece) : Prop :=
  (p.chars a).count '(' = (p.chars b).count '(' ∧ (p.chars a).count ')' = (p.chars b).count ')'

theorem balanced_of_chars {p : Piece} (h : p.chars a = p.chars b) : p.Balanced a b := by
  rw [Balanced, h]
  exact ⟨rfl, rfl⟩

theorem balanced_selector (ha : (selector id kind text).Fits a)
    (hb : (selector id kind text).Fits b) : (selector id kind text).Balanced a b := by
  obtain ⟨s, hs, -, hchars⟩ := ha.chars
  obtain ⟨s', hs', -, hchars'⟩ := hb.chars
  obtain ⟨hopen, hclose⟩ := Kind.count_paren_selectors hs
  obtain ⟨hopen', hclose'⟩ := Kind.count_paren_selectors hs'
  rw [Balanced, hchars, hchars', hopen, hopen', hclose, hclose']
  exact ⟨rfl, rfl⟩

end Piece

/-- Two assignments that fit all pieces and give them one text. -/
structure Twins (a b : Assignment) (all : List Piece) : Prop where
  left : ∀ p ∈ all, p.Fits a
  right : ∀ p ∈ all, p.Fits b
  text : all.flatMap (Piece.chars a) = all.flatMap (Piece.chars b)

namespace Twins

variable {a b : Assignment} {all : List Piece}

theorem countP_isMark (h : Twins a b all) :
    ∀ p ∈ all, (p.chars a).countP isMark = (p.chars b).countP isMark := by
  intro p hp
  cases p with
  | kept text => rfl
  | selector id kind text =>
    exact Piece.countP_selector (h.left _ hp) (h.right _ hp) kind.countP_isMark_selectors
  | opening id =>
    rw [Piece.chars_opening, Piece.chars_opening]
    split <;> split <;> rfl
  | closing id =>
    rw [Piece.chars_closing, Piece.chars_closing]
    split <;> split <;> rfl

theorem before_kept (h : Twins a b all) {ps : List Piece} {text : String}
    (hall : ps ++ [.kept text] <+: all) (hmark : '?' ∈ text.toList) :
    ps.flatMap (Piece.chars a) = ps.flatMap (Piece.chars b) := by
  obtain ⟨u, v, huv⟩ := List.append_of_mem hmark
  obtain ⟨rest, hrest⟩ := hall
  rw [List.append_assoc, List.singleton_append] at hrest
  obtain ⟨hbefore, -, -⟩ :=
    Text.eq_of_flatMap_mark h.text h.countP_isMark hrest.symm huv huv rfl rfl rfl
  exact List.append_cancel_right hbefore

section Negations

def Level (a b : Assignment) (c : Char) (ps : List Piece) : Prop :=
  (ps.flatMap (Piece.chars a)).count c = (ps.flatMap (Piece.chars b)).count c

theorem level_append {c : Char} {qs ps : List Piece}
    (h : ∀ p ∈ ps, (p.chars a).count c = (p.chars b).count c) :
    Level a b c (qs ++ ps) ↔ Level a b c qs := by
  have hps : (ps.flatMap (Piece.chars a)).count c = (ps.flatMap (Piece.chars b)).count c :=
    Text.countP_flatMap_congr h
  simp only [Level, List.flatMap_append, List.count_append]
  omega

theorem level_concat {c : Char} {qs : List Piece} {p : Piece} (h : Level a b c qs) :
    Level a b c (qs ++ [p]) ↔ (p.chars a).count c = (p.chars b).count c := by
  unfold Level at h ⊢
  simp only [List.flatMap_append, List.flatMap_singleton, List.count_append]
  omega

theorem level_next {qs ps : List Piece} {p : Piece} (hp : p.Balanced a b)
    (h : Level a b '(' qs ∨ Level a b ')' (qs ++ p :: ps)) :
    Level a b '(' (qs ++ [p]) ∨ Level a b ')' (qs ++ [p] ++ ps) := by
  rcases h with hopen | hclose
  · exact Or.inl ((level_concat hopen).mpr hp.1)
  · exact Or.inr (by rwa [List.append_assoc, List.singleton_append])

/-- A stretch that is level in front of it or at its end has the same negations under both
assignments. The method name inside a pair makes the texts level at both sides of it. -/
theorem balanced_of_level (h : Twins a b all) {ps : List Piece} (hps : Bracketed ps)
    (before : List Piece) (hall : before ++ ps <+: all)
    (hlevel : Level a b '(' before ∨ Level a b ')' (before ++ ps)) :
    ∀ p ∈ ps, p.Balanced a b := by
  induction hps generalizing before with
  | nil => intro p hp; cases hp
  | @kept ps text _ ih =>
    have hhead : (Piece.kept text).Balanced a b := Piece.balanced_of_chars rfl
    rw [List.forall_mem_cons]
    exact ⟨hhead, ih _ (by rwa [List.append_assoc]) (level_next hhead hlevel)⟩
  | @selector ps id kind text _ ih =>
    have hmem : .selector id kind text ∈ all := hall.subset (by simp)
    have hhead := Piece.balanced_selector (h.left _ hmem) (h.right _ hmem)
    rw [List.forall_mem_cons]
    exact ⟨hhead, ih _ (by rwa [List.append_assoc]) (level_next hhead hlevel)⟩
  | @predicate xs ys zs id text hmark _ _ _ ihx ihy ihz =>
    have hname : (Piece.kept text).Balanced a b := Piece.balanced_of_chars rfl
    have hsplit : before ++ .opening id :: (xs ++ .kept text :: (ys ++ .closing id :: zs)) =
        before ++ [.opening id] ++ xs ++ [.kept text] ++ ys ++ [.closing id] ++ zs := by simp
    rw [hsplit] at hall hlevel
    have htoClosing := (List.prefix_append _ zs).trans hall
    have htoYs := (List.prefix_append _ [Piece.closing id]).trans htoClosing
    have htoName := (List.prefix_append _ ys).trans htoYs
    have htoXs := (List.prefix_append _ [Piece.kept text]).trans htoName
    -- Under both assignments the method name is found at the same place.
    have hlevelXs (c : Char) : Level a b c (before ++ [.opening id] ++ xs) :=
      congrArg (List.count c) (h.before_kept htoName hmark)
    have hx : ∀ p ∈ xs, p.Balanced a b := ihx _ htoXs (Or.inr (hlevelXs ')'))
    have hlevelName : Level a b '(' (before ++ [.opening id] ++ xs ++ [.kept text]) :=
      (level_concat (hlevelXs '(')).mpr hname.1
    have hy : ∀ p ∈ ys, p.Balanced a b := ihy _ htoYs (Or.inl hlevelName)
    have hrest : (a.choice? id = some 1 ↔ b.choice? id = some 1) ∧ ∀ p ∈ zs, p.Balanced a b := by
      -- From the front the opening place tells the choice, from the end the closing place.
      rcases hlevel with hopen | hclose
      · have hlevelOpening : Level a b '(' (before ++ [.opening id]) :=
          (level_append fun p hp => (hx p hp).1).mp (hlevelXs '(')
        have hneg := Piece.negates_iff_of_opening ((level_concat hopen).mp hlevelOpening)
        have hlevelYs := (level_append fun p hp => (hy p hp).1).mpr hlevelName
        have hclosing := Piece.balanced_of_chars (Piece.chars_closing_congr hneg)
        exact ⟨hneg, ihz _ hall (Or.inl ((level_concat hlevelYs).mpr hclosing.1))⟩
      · have hz : ∀ p ∈ zs, p.Balanced a b := ihz _ hall (Or.inr hclose)
        have hlevelClosing := (level_append fun p hp => (hz p hp).2).mp hclose
        have hlevelYs := (level_append fun p hp => (hy p hp).2).mpr
          ((level_concat (hlevelXs ')')).mpr hname.2)
        exact ⟨Piece.negates_iff_of_closing ((level_concat hlevelYs).mp hlevelClosing), hz⟩
    obtain ⟨hneg, hz⟩ := hrest
    simp only [List.forall_mem_cons, List.forall_mem_append]
    exact ⟨Piece.balanced_of_chars (Piece.chars_opening_congr hneg), hx, hname, hy,
      Piece.balanced_of_chars (Piece.chars_closing_congr hneg), hz⟩

theorem balanced (h : Twins a b all) (hall : Bracketed all) : ∀ p ∈ all, p.Balanced a b :=
  h.balanced_of_level hall [] (List.prefix_refl all) (Or.inl rfl)

theorem chars_eq_of_balanced {p : Piece} (h : p.Balanced a b)
    (hp : ∀ id kind text, p ≠ .selector id kind text) : p.chars a = p.chars b := by
  cases p with
  | kept text => rfl
  | selector id kind text => exact absurd rfl (hp id kind text)
  | opening id => exact Piece.chars_opening_congr (Piece.negates_iff_of_opening h.1)
  | closing id => exact Piece.chars_closing_congr (Piece.negates_iff_of_closing h.2)

end Negations

section Selectors

theorem countP_isSign {p : Piece} (h : Twins a b all) (hp : p ∈ all) (hbal : p.Balanced a b)
    (hcmp : ∀ id text, p = .selector id .comparison text → p.chars a = p.chars b) :
    (p.chars a).countP isSign = (p.chars b).countP isSign := by
  cases p with
  | selector id kind text =>
    by_cases hk : kind = .comparison
    · rw [hcmp id text (by rw [hk])]
    · exact Piece.countP_selector (h.left _ hp) (h.right _ hp) (Kind.countP_isSign_selectors hk)
  | kept text => rfl
  | opening id => rw [chars_eq_of_balanced hbal fun _ _ _ => Piece.noConfusion]
  | closing id => rw [chars_eq_of_balanced hbal fun _ _ _ => Piece.noConfusion]

/-- After its mark, a comparison can differ in one `=` only, and what follows it cannot make up for
that, for the comparisons there are known to agree and nothing else changes the number of signs. -/
theorem chars_comparison (h : Twins a b all) (hbal : ∀ p ∈ all, p.Balanced a b)
    {ys : List Piece} (xs : List Piece) (hall : all = xs ++ ys) :
    ∀ p ∈ ys, ∀ id text, p = .selector id .comparison text → p.chars a = p.chars b := by
  induction ys generalizing xs with
  | nil => intro p hp; cases hp
  | cons q ys ih =>
    have hys := ih (xs ++ [q]) (by rw [hall]; simp)
    rw [List.forall_mem_cons]
    refine ⟨?_, hys⟩
    rintro id text rfl
    have hmem : .selector id .comparison text ∈ all := by rw [hall]; simp
    obtain ⟨x, v, hx, hchars, hv⟩ := (h.left _ hmem).comparison
    obtain ⟨x', v', hx', hchars', hv'⟩ := (h.right _ hmem).comparison
    obtain ⟨-, hmark, hafter⟩ :=
      Text.eq_of_flatMap_mark h.text h.countP_isMark hall hchars hchars' hx hx' rfl
    have htail : (ys.flatMap (Piece.chars a)).countP isSign =
        (ys.flatMap (Piece.chars b)).countP isSign :=
      Text.countP_flatMap_congr fun p hp => by
        have hpall : p ∈ all := by rw [hall]; simp [hp]
        exact h.countP_isSign hpall (hbal p hpall) (hys p hp)
    have hcount := congrArg (List.countP isSign) hafter
    rw [List.countP_append, List.countP_append, htail, Nat.add_right_cancel_iff] at hcount
    have htails : v = v' := by
      rcases hv with rfl | rfl <;> rcases hv' with rfl | rfl <;> first | rfl | cases hcount
    rw [hchars, hchars', hmark, htails]

theorem chars_eq (h : Twins a b all) (hall : Bracketed all) :
    ∀ p ∈ all, p.chars a = p.chars b := by
  have hbal := h.balanced hall
  have hcmp := h.chars_comparison hbal [] rfl
  apply Text.eq_of_flatMap_prefixFree _ h.text
  intro p hp hpre
  cases p with
  | kept text => rfl
  | opening id => exact chars_eq_of_balanced (hbal _ hp) fun _ _ _ => Piece.noConfusion
  | closing id => exact chars_eq_of_balanced (hbal _ hp) fun _ _ _ => Piece.noConfusion
  | selector id kind text =>
    by_cases hk : kind = .comparison
    · subst hk
      exact hcmp _ hp id text rfl
    · obtain ⟨s, hs, -, hchars⟩ := (h.left _ hp).chars
      obtain ⟨s', hs', -, hchars'⟩ := (h.right _ hp).chars
      rw [hchars, hchars'] at hpre ⊢
      rcases hpre with hpre | hpre
      · rw [Kind.prefixFree_selectors hk s hs s' hs' hpre]
      · rw [Kind.prefixFree_selectors hk s' hs' s hs hpre]

end Selectors

end Twins

section Detect

variable {T : Node} {a b : Assignment}

theorem exists_selector {id : Nat} {kind : Kind} (hk : kind ≠ .predicate)
    (ha : (a.alternative? id kind).isSome = true) :
    ∃ s ∈ kind.selectors, a.selector? id kind = some s := by
  rw [Assignment.alternative?, Kind.alternatives_eq hk] at ha
  obtain ⟨alt, halt⟩ := Option.isSome_iff_exists.mp ha
  obtain ⟨c, hc, hget⟩ := Option.bind_eq_some_iff.mp halt
  rw [List.getElem?_map, Option.map_eq_some_iff] at hget
  obtain ⟨s, hs, -⟩ := hget
  refine ⟨s, List.mem_of_getElem? hs, ?_⟩
  rw [Assignment.selector?, hc]
  exact hs

theorem owned_detect (T : Node) : ∀ p ∈ pieces 0 none T.children, p.Owned (detect T) :=
  owned_pieces (fun _ _ h => by cases h) (Template.stores_detect T)

theorem fits_pieces (ha : a.Fits (detect T)) :
    ∀ p ∈ pieces 0 none T.children, p.Fits a := by
  intro p hp
  have howned := owned_detect T p hp
  cases p with
  | selector id kind text =>
    obtain ⟨hkind, hk⟩ := howned
    obtain ⟨h, hid, rfl⟩ := Option.map_eq_some_iff.mp hkind
    exact exists_selector hk (Assignment.fits_detect.mp ha id h hid)
  | kept text | opening id | closing id => trivial

theorem choice_eq_of_selector {id : Nat} {kind : Kind} {s : String}
    (ha : a.selector? id kind = some s) (hb : b.selector? id kind = some s) :
    a.choice? id = b.choice? id := by
  obtain ⟨c, hc, hget⟩ := Option.bind_eq_some_iff.mp ha
  obtain ⟨c', hc', hget'⟩ := Option.bind_eq_some_iff.mp hb
  have hlt : c < kind.selectors.length := (List.getElem?_eq_some_iff.mp hget).1
  have hsame : c = c' :=
    (List.getElem?_inj hlt kind.nodup_selectors).mp (hget.trans hget'.symm)
  rw [hc, hc', hsame]

theorem choice_predicate {id : Nat} (ha : (a.alternative? id .predicate).isSome = true) :
    a.choice? id = some 0 ∨ a.choice? id = some 1 := by
  obtain ⟨alt, halt⟩ := Option.isSome_iff_exists.mp ha
  obtain ⟨c, hc, hget⟩ := Option.bind_eq_some_iff.mp halt
  have hlt : c < 2 := (List.getElem?_eq_some_iff.mp hget).1
  rw [hc]
  have hcases : c = 0 ∨ c = 1 := by omega
  rcases hcases with rfl | rfl
  · exact Or.inl rfl
  · exact Or.inr rfl

theorem choice_eq_of_chars (ha : a.Fits (detect T)) (hb : b.Fits (detect T)) {p : Piece}
    (hp : p ∈ pieces 0 none T.children) {id : Nat} (hshows : p.shows? = some id)
    (h : p.chars a = p.chars b) : a.choice? id = b.choice? id := by
  cases p with
  | kept text => cases hshows
  | closing id => cases hshows
  | selector id kind text =>
    obtain rfl := Option.some.inj hshows
    obtain ⟨s, -, hs, hchars⟩ := (fits_pieces ha _ hp).chars
    obtain ⟨s', -, hs', hchars'⟩ := (fits_pieces hb _ hp).chars
    rw [hchars, hchars', String.toList_inj] at h
    exact choice_eq_of_selector hs (h ▸ hs')
  | opening id =>
    obtain rfl := Option.some.inj hshows
    have howned : ((detect T).hotspot? id).map Hotspot.kind = some .predicate :=
      owned_detect T _ hp
    obtain ⟨g, hid, hkind⟩ := Option.map_eq_some_iff.mp howned
    have hneg : a.choice? id = some 1 ↔ b.choice? id = some 1 :=
      Piece.negates_iff_of_opening (Piece.balanced_of_chars h).1
    have hca := choice_predicate (hkind ▸ Assignment.fits_detect.mp ha id g hid)
    have hcb := choice_predicate (hkind ▸ Assignment.fits_detect.mp hb id g hid)
    rcases hca with hca | hca <;> rcases hcb with hcb | hcb <;> simp_all

theorem twins_of_text (ha : a.Fits (detect T)) (hb : b.Fits (detect T))
    (h : (a.variant T).text = (b.variant T).text) : Twins a b (pieces 0 none T.children) where
  left := fits_pieces ha
  right := fits_pieces hb
  text := by
    have htext : render (Piece.under a) (pieces 0 none T.children) =
        render (Piece.under b) (pieces 0 none T.children) := by
      rw [← (a.rendered 0 T.children).plain, ← (b.rendered 0 T.children).plain]
      exact h
    have hlist := congrArg String.toList htext
    rw [render, render, String.toList_join, String.toList_join, List.flatMap_map,
      List.flatMap_map] at hlist
    exact hlist

theorem choice_eq_of_text (ha : a.Fits (detect T)) (hb : b.Fits (detect T))
    (h : (a.variant T).text = (b.variant T).text) {id : Nat}
    (hid : id < (detect T).hotspots.length) : a.choice? id = b.choice? id := by
  have hall := (Bracketed.row 0 T.children).whole none
  have hlt : id < 0 + hotspotCount T.children := by rwa [Nat.zero_add, ← Template.length_detect]
  obtain ⟨p, hp, hshows⟩ := exists_piece none (Nat.zero_le id) hlt
  exact choice_eq_of_chars ha hb hp hshows ((twins_of_text ha hb h).chars_eq hall p hp)

theorem text_variantAt_injective {i j : Nat} (hi : i < spaceProduct (detect T))
    (hj : j < spaceProduct (detect T))
    (h : ((variantAt T i).variant T).text = ((variantAt T j).variant T).text) : i = j := by
  apply variantAt_injective hi hj
  apply Assignment.ext_choice? ((length_variantAt T i).trans (length_variantAt T j).symm)
  intro id hid
  rw [length_variantAt] at hid
  exact choice_eq_of_text (fits_variantAt hi) (fits_variantAt hj) h hid

end Detect

end Mender.Variant
