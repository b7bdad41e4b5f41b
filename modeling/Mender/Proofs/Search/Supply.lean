import Mathlib.Algebra.Order.Floor.Div
import Mender.Proofs.Search.Ledger

namespace Mender.Search

open Syntax Hotspot Variant

variable {σ : Type}

theorem Candidates.toList_listed (as : List Assignment) : (Candidates.listed as).toList = as := by
  induction as with
  | nil => exact toList_of_none rfl
  | cons a as ih => rw [toList_of_some rfl, ih]

theorem windowEnd_eq_ceilDiv (window k : Nat) : windowEnd window k = window * (k ⌈/⌉ window) :=
  Nat.mul_comm _ _

theorem windowEnd_le {window : Nat} (hw : 0 < window) (k : Nat) :
    windowEnd window k ≤ k + (window - 1) := by
  have hle := Nat.div_mul_le_self (k + window - 1) window
  rw [windowEnd]
  omega

theorem failingTests_error_iff {h : Harness σ} {original : String} {s : Session σ} :
    (∃ e, (failingTests h original s).1 = .error e) ↔
      ∃ e, (h.load original s.state).result = .error e := by
  have hload : (Act.load h original s).1 = (h.load original s.state).result := rfl
  rw [failingTests, bind_apply, hload]
  cases (h.load original s.state).result with
  | error e => exact iff_of_true ⟨e, rfl⟩ ⟨e, rfl⟩
  | ok _ =>
    constructor
    · rintro ⟨e, he⟩
      cases he
    · rintro ⟨e, he⟩
      cases he

theorem buildAll_take {t : Template} {as : List Assignment} {vs : List (Assignment × String)}
    (h : buildAll t as = .ok vs) (m : Nat) : buildAll t (as.take m) = .ok (vs.take m) := by
  have hlen := length_of_buildAll h
  rw [← List.take_append_drop m as] at h
  obtain ⟨us, ws, hus, hws, rfl⟩ := ok_of_buildAll_append h
  have hfirst := length_of_buildAll hus
  rw [List.length_take] at hfirst
  rw [hus]
  by_cases hm : m ≤ as.length
  · rw [List.take_append_of_le_length (by omega), List.take_of_length_le (by omega)]
  · have hnil : ws = [] := by
      rw [List.length_append] at hlen
      exact List.eq_nil_of_length_eq_zero (by omega)
    rw [hnil, List.append_nil, List.take_of_length_le (by omega)]

theorem Rounds.of_built {t : Template} {window : Nat} {as : List Assignment}
    {r : Except Failure (Nat × Stats × Option Fix)} {l : Ledger}
    {variants : List (Assignment × String)}
    (h : Rounds t window 0 {} as r l) (hw : 0 < window) (hb : buildAll t as = .ok variants) :
    ∃ r' given, l.verdicts = numbered 0 given ∧ Judgement 0 {} variants given r' ∧
      l.loaded = (variants.map (·.2)).take given.length ∧
      l.pulled = as.take
        (if r'.2.2.isSome then windowEnd window given.length else as.length) := by
  obtain ⟨given, hverdicts, -, hok⟩ := h.accounts hw
  cases r with
  | error e =>
    obtain ⟨a, ha, cause, hcause⟩ := h.failed rfl
    obtain ⟨n, hn⟩ := exists_buildAll_iff.mp ⟨variants, hb⟩ a ha
    rw [hcause] at hn
    cases hn
  | ok r' =>
    obtain ⟨vs, hvs, hloaded, hj, hpulled⟩ := hok r' rfl
    rw [hpulled] at hvs
    obtain rfl := Except.ok.inj ((buildAll_take hb _).symm.trans hvs)
    refine ⟨r', given, hverdicts, ?_, ?_, hpulled⟩
    · obtain ⟨i, st, fix?⟩ := r'
      cases fix? with
      | some fix =>
        have hall := hj.append_of_some (variants.drop (windowEnd window given.length))
        rwa [if_pos Option.isSome_some, List.take_append_drop] at hall
      | none =>
        rw [← length_of_buildAll hb] at hj
        rwa [if_neg (by simp), List.take_length] at hj
    · have hle := hj.length_le
      rw [List.length_take] at hle
      rw [hloaded, List.map_take, List.take_take, Nat.min_eq_left (by omega)]

theorem Rounds.of_accepted {t : Template} {window : Nat} {as : List Assignment}
    {r : Except Failure (Nat × Stats × Option Fix)} {l : Ledger}
    {variants : List (Assignment × String)}
    (h : Rounds t window 0 {} as r l) (hw : 0 < window) (hb : buildAll t as = .ok variants) {k : Nat}
    (hk : (k, .accepted) ∈ l.verdicts) :
    l.pulled = as.take (windowEnd window k) ∧ k ≤ l.pulled.length ∧
      l.loaded = (variants.map (·.2)).take k ∧ l.verdicts.map (·.1) = List.range' 1 k := by
  obtain ⟨⟨i, st, fix?⟩, given, hverdicts, hj, hloaded, hpulled⟩ := h.of_built hw hb
  have hlen := length_of_buildAll hb
  have hle := hj.length_le
  have hlow := le_windowEnd (k := given.length) hw
  rw [hverdicts] at hk
  obtain ⟨fix, rfl, rfl⟩ := (hj.mem_numbered_iff k).mp hk
  have hindex : fix.index = given.length :=
    ((hj.index_of_some rfl).trans hj.index_eq).trans (Nat.zero_add _)
  rw [hindex, hpulled, if_pos Option.isSome_some, hverdicts]
  refine ⟨rfl, ?_, hloaded, map_fst_numbered 0 given⟩
  rw [List.length_take]
  omega

theorem Rounds.of_not_accepted {t : Template} {window : Nat} {as : List Assignment}
    {r : Except Failure (Nat × Stats × Option Fix)} {l : Ledger}
    {variants : List (Assignment × String)}
    (h : Rounds t window 0 {} as r l) (hw : 0 < window) (hb : buildAll t as = .ok variants)
    (hnone : ∀ k, (k, .accepted) ∉ l.verdicts) :
    l.pulled = as ∧ l.loaded = variants.map (·.2) ∧
      l.verdicts.map (·.1) = List.range' 1 as.length := by
  obtain ⟨⟨i, st, fix?⟩, given, hverdicts, hj, hloaded, hpulled⟩ := h.of_built hw hb
  have hlen := length_of_buildAll hb
  rw [hverdicts] at hnone
  cases fix? with
  | some fix => exact absurd ((hj.mem_numbered_iff fix.index).mpr ⟨fix, rfl, rfl⟩) (hnone _)
  | none =>
    have hall : given.length = variants.length := hj.length_of_none rfl
    refine ⟨?_, ?_, ?_⟩
    · rw [hpulled]
      exact List.take_length
    · rw [hloaded, hall, List.take_of_length_le (by rw [List.length_map])]
    · rw [hverdicts, ← hlen, ← hall]
      exact map_fst_numbered 0 given

namespace Searched

variable {t : Template} {window : Nat} {original : String} {as : List Assignment}
  {first : Except Failure (List String)} {r : Except Failure Report} {l : Ledger}

theorem idle (h : Searched t window original as first r l)
    (hfirst : (∃ e, first = .error e) ∨ first = .ok []) : l = ⟨0, [], [original], []⟩ := by
  cases h with
  | refused => rfl
  | passed => rfl
  | searched test tests =>
    rcases hfirst with ⟨e, he⟩ | hnone
    · cases he
    · cases hnone

theorem exists_rounds (h : Searched t window original as first r l) {failing : List String}
    (hfirst : first = .ok failing) (hne : failing ≠ []) :
    ∃ r' l', Rounds t window 0 {} as r' l' ∧ l = ⟨1, [], [original], []⟩ ++ l' := by
  cases h with
  | refused => cases hfirst
  | passed => exact absurd (Except.ok.inj hfirst).symm hne
  | searched test tests hrounds => exact ⟨_, _, hrounds, rfl⟩

end Searched

section Lazy

variable {t : Template} {supply : Candidates} {variants : List (Assignment × String)}

/-- A search asks for no assignment unless a test fails. It takes no more windows than it needs to
reach the winner, so none behind the winner if a window holds one assignment, and never judges what
it took beyond it; without a winner it takes and judges all. -/
theorem runAssignments_lazy (hb : buildAll t supply.toList = .ok variants) (original : String)
    (h : Harness σ) (options : Options) (s : Session σ) :
    let window := max options.lookahead 1
    let total := supply.toList.length
    let r := (runAssignments t original h options supply).run s
    ∃ evs, r.2.events.toList = s.events.toList ++ evs ∧
      ((∃ e, (h.load original s.state).result = .error e) ∨ (failingTests h original s).1 = .ok [] →
        ledger evs = ⟨0, [], [original], []⟩) ∧
      ∀ failing, failing ≠ [] → (failingTests h original s).1 = .ok failing →
        (ledger evs).opened = 1 ∧
        (∀ k, (k, .accepted) ∈ (ledger evs).verdicts →
          (ledger evs).pulled = supply.toList.take (window * (k ⌈/⌉ window)) ∧
          (ledger evs).pulled.length = min total (window * (k ⌈/⌉ window)) ∧
          k ≤ (ledger evs).pulled.length ∧ (ledger evs).pulled.length ≤ k + (window - 1) ∧
          (options.lookahead ≤ 1 → (ledger evs).pulled.length = k) ∧
          (ledger evs).loaded = original :: (variants.map (·.2)).take k ∧
          (ledger evs).verdicts.map (·.1) = List.range' 1 k) ∧
        ((∀ k, (k, .accepted) ∉ (ledger evs).verdicts) →
          (ledger evs).pulled = supply.toList ∧
          (ledger evs).loaded = original :: variants.map (·.2) ∧
          (ledger evs).verdicts.map (·.1) = List.range' 1 total) := by
  intro window total r
  have hw : 0 < window := by omega
  obtain ⟨evs, hevents, hsearched⟩ := runAssignments_searched t original h options supply s
  refine ⟨evs, hevents, ?_, ?_⟩
  · rw [← failingTests_error_iff]
    exact hsearched.idle
  · intro failing hne hfailing
    obtain ⟨r', l, hrounds, hl⟩ := hsearched.exists_rounds hfailing hne
    have hopened : l.opened = 0 := hrounds.opened_eq
    have hledger : ledger evs = ⟨1, l.pulled, original :: l.loaded, l.verdicts⟩ := by
      rw [hl]
      obtain ⟨opened, pulled, texts, verdicts⟩ := l
      obtain rfl : opened = 0 := hopened
      rfl
    rw [hledger]
    refine ⟨rfl, ?_, ?_⟩
    · intro k hk
      obtain ⟨hpulled, hlow, hloaded, hnumbers⟩ := hrounds.of_accepted hw hb hk
      have hhigh := windowEnd_le hw k
      have hcount : l.pulled.length = min supply.toList.length (windowEnd window k) := by
        rw [hpulled, List.length_take, Nat.min_comm]
      dsimp only
      rw [← windowEnd_eq_ceilDiv]
      refine ⟨hpulled, hcount, hlow, by omega, ?_, by rw [hloaded], hnumbers⟩
      intro hone
      have hwindow : window = 1 := by omega
      omega
    · intro hnone
      obtain ⟨hpulled, hloaded, hnumbers⟩ := hrounds.of_not_accepted hw hb hnone
      exact ⟨hpulled, congrArg (original :: ·) hloaded, hnumbers⟩

end Lazy

theorem verdicts_filter_isPull (es : List Event) :
    (ledger (es.filter fun e => !e.isPull)).verdicts = (ledger es).verdicts := by
  change List.filterMap _ _ = List.filterMap _ _
  rw [List.filterMap_filter]
  congr
  funext e
  cases e <;> rfl

def bounds : List Assignment := (List.range 4).map fun choice => ⟨[some choice, some 0, some 0]⟩

def boundVariants : List (Assignment × String) := bounds.map fun a => (a, (a.variant nested).text)

def boundEvents : List Event :=
  ((runAssignments (detect nested) nested.text boundSuite ⟨3⟩ (.listed bounds)).run
    ⟨{}, #[]⟩).2.events.toList

theorem verdicts_boundEvents :
    (ledger boundEvents).verdicts = [(1, .bugOracleFailed), (2, .accepted)] := by
  have hbuilt : ∀ a ∈ (Candidates.listed bounds).toList,
      (build (detect nested) a).map Node.text = .ok (a.variant nested).text := by
    rw [Candidates.toList_listed]
    decide +kernel
  obtain ⟨-, hseen⟩ := runAssignments_alike (h := boundSuite) hbuilt nested.text ⟨3⟩ ⟨{}, #[]⟩
    ⟨{}, #[]⟩ rfl
  have hverdicts := congrArg (fun es => (ledger es).verdicts) (Prod.mk.inj hseen).2
  simp only [verdicts_filter_isPull, Candidates.toList_listed] at hverdicts
  refine hverdicts.trans ?_
  decide +kernel

theorem runAssignments_lazy_bounds :
    buildAll (detect nested) bounds = .ok boundVariants ∧
      (failingTests boundSuite nested.text ⟨{}, #[]⟩).1 = .ok ["bound"] ∧
      (2, .accepted) ∈ (ledger boundEvents).verdicts ∧
      (ledger boundEvents).pulled = bounds.take 3 ∧
      (ledger boundEvents).loaded = nested.text :: (boundVariants.map (·.2)).take 2 := by
  have hb : buildAll (detect nested) bounds = .ok boundVariants := by decide +kernel
  have hfailing : (failingTests boundSuite nested.text ⟨{}, #[]⟩).1 = .ok ["bound"] := by
    decide +kernel
  have hmem : (2, .accepted) ∈ (ledger boundEvents).verdicts := by
    rw [verdicts_boundEvents]
    decide
  rw [← Candidates.toList_listed bounds] at hb
  obtain ⟨evs, hevents, -, hlazy⟩ :=
    runAssignments_lazy hb nested.text boundSuite ⟨3⟩ ⟨{}, #[]⟩
  obtain rfl : boundEvents = evs := hevents
  obtain ⟨-, hwon, -⟩ := hlazy ["bound"] (List.cons_ne_nil _ _) hfailing
  obtain ⟨hpulled, -, -, -, -, hloaded, -⟩ := hwon 2 hmem
  rw [Candidates.toList_listed] at hpulled hb
  exact ⟨hb, hfailing, hmem, hpulled, hloaded⟩

end Mender.Search
