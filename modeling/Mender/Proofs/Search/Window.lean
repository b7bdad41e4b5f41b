import Mender.Proofs.Search.Conversation

/-!
Searches among assignments that need not fit. A window is built as a whole before its first variant
is judged, so an assignment that cannot be built takes down the variants that stand before it in its
window, but none of an earlier window.
-/

namespace Mender.Search

open Syntax Hotspot Variant

variable {σ : Type}

section Build

variable {t : Template} {xs ys : List Assignment} {vs : List (Assignment × String)} {e : BuildError}

theorem buildAll_cons (a : Assignment) (as : List Assignment) : buildAll t (a :: as) =
    (build t a).bind fun n => (buildAll t as).map ((a, n.text) :: ·) := by
  rw [buildAll]
  cases build t a with
  | error e => rfl
  | ok n => cases buildAll t as <;> rfl

theorem buildAll_append : buildAll t (xs ++ ys) =
    (buildAll t xs).bind fun us => (buildAll t ys).map (us ++ ·) := by
  induction xs with
  | nil =>
    rw [List.nil_append]
    cases buildAll t ys <;> rfl
  | cons a xs ih =>
    rw [List.cons_append, buildAll_cons, buildAll_cons, ih]
    cases build t a with
    | error e => rfl
    | ok n =>
      cases buildAll t xs with
      | error e => rfl
      | ok us => cases buildAll t ys <;> rfl

theorem buildAll_append_of_ok (hx : buildAll t xs = .ok vs) :
    buildAll t (xs ++ ys) = (buildAll t ys).map (vs ++ ·) := by
  rw [buildAll_append, hx]
  rfl

theorem ok_of_buildAll_append (h : buildAll t (xs ++ ys) = .ok vs) :
    ∃ us ws, buildAll t xs = .ok us ∧ buildAll t ys = .ok ws ∧ vs = us ++ ws := by
  rw [buildAll_append] at h
  cases hx : buildAll t xs with
  | error e => rw [hx] at h; cases h
  | ok us =>
    cases hy : buildAll t ys with
    | error e => rw [hx, hy] at h; cases h
    | ok ws =>
      rw [hx, hy] at h
      exact ⟨us, ws, rfl, rfl, (Except.ok.inj h).symm⟩

theorem length_of_buildAll (h : buildAll t xs = .ok vs) : vs.length = xs.length := by
  induction xs generalizing vs with
  | nil =>
    obtain rfl : [] = vs := Except.ok.inj h
    rfl
  | cons a xs ih =>
    rw [buildAll_cons] at h
    cases ha : build t a with
    | error e => rw [ha] at h; cases h
    | ok n =>
      rw [ha] at h
      cases hxs : buildAll t xs with
      | error e => rw [hxs] at h; cases h
      | ok us =>
        rw [hxs] at h
        obtain rfl : (a, n.text) :: us = vs := Except.ok.inj h
        rw [List.length_cons, ih hxs, List.length_cons]

theorem exists_buildAll_iff :
    (∃ vs, buildAll t xs = .ok vs) ↔ ∀ a ∈ xs, ∃ n, build t a = .ok n := by
  induction xs with
  | nil => exact iff_of_true ⟨[], rfl⟩ (List.forall_mem_nil _)
  | cons a xs ih =>
    rw [buildAll_cons, List.forall_mem_cons, ← ih]
    cases build t a with
    | error e => simp [Except.bind]
    | ok n => cases buildAll t xs <;> simp [Except.bind, Except.map]

theorem exists_of_buildAll_error (h : buildAll t xs = .error e) :
    ∃ a ∈ xs, build t a = .error e := by
  induction xs with
  | nil => cases h
  | cons a xs ih =>
    rw [buildAll_cons] at h
    cases ha : build t a with
    | error e' =>
      rw [ha] at h
      exact ⟨a, List.mem_cons_self, ha.trans (congrArg _ (Except.error.inj h))⟩
    | ok n =>
      rw [ha] at h
      cases hxs : buildAll t xs with
      | error e' =>
        rw [hxs] at h
        obtain ⟨b, hb, he⟩ := ih (hxs.trans (congrArg _ (Except.error.inj h)))
        exact ⟨b, List.mem_cons_of_mem a hb, he⟩
      | ok us => rw [hxs] at h; cases h

end Build

/-- The end of the window in which the `k`-th assignment lies. -/
def windowEnd (window k : Nat) : Nat := (k + window - 1) / window * window

section WindowEnd

variable {window k : Nat}

theorem le_windowEnd (hw : 0 < window) : k ≤ windowEnd window k := by
  have hdiv := Nat.div_add_mod (k + window - 1) window
  have hmod := Nat.mod_lt (k + window - 1) hw
  rw [windowEnd, Nat.mul_comm]
  omega

theorem windowEnd_of_le (hk : 0 < k) (hle : k ≤ window) : windowEnd window k = window := by
  have hdiv : (k + window - 1) / window = 1 := Nat.div_eq_of_lt_le (by omega) (by omega)
  rw [windowEnd, hdiv, Nat.one_mul]

theorem windowEnd_of_lt (hw : 0 < window) (hlt : window < k) :
    windowEnd window k = window + windowEnd window (k - window) := by
  have hk : k + window - 1 = (k - window + window - 1) + window := by omega
  rw [windowEnd, windowEnd, hk, Nat.add_div_right _ hw, Nat.succ_mul, Nat.add_comm]

theorem windowEnd_of_dvd (hw : 0 < window) (hk : window ∣ k) : windowEnd window k = k := by
  obtain ⟨m, rfl⟩ := hk
  have hlt : window - 1 < window := Nat.sub_lt hw Nat.one_pos
  rw [windowEnd, Nat.add_sub_assoc hw, Nat.mul_add_div hw, Nat.div_eq_of_lt hlt, Nat.add_zero,
    Nat.mul_comm]

end WindowEnd

section Batch

variable {h : Harness σ} {failing : List String} {index i : Nat} {stats st : Stats}
  {vs : List (Assignment × String)} {s : Session σ}

theorem index_of_judgeBatch {fix : Fix}
    (hj : (judgeBatch h failing index stats vs s).1 = (i, st, some fix)) :
    index < fix.index ∧ fix.index ≤ index + vs.length := by
  obtain ⟨-, es, -, -, -, htrials, -⟩ := Converses.judgeBatch (h := h) failing index stats vs s
  rw [hj] at htrials
  have hbounds := htrials.winner_bounds fix.index rfl
  rwa [List.length_map] at hbounds

theorem index_of_judgeBatch_none (hj : (judgeBatch h failing index stats vs s).1 = (i, st, none)) :
    i = index + vs.length := by
  obtain ⟨-, es, -, -, -, htrials, hcount, -⟩ :=
    Converses.judgeBatch (h := h) failing index stats vs s
  rw [hj] at htrials hcount
  obtain ⟨n, hloaded, hall, -⟩ := htrials.loaded
  rwa [hloaded, hall rfl, List.take_length, List.length_map] at hcount

end Batch

theorem seen_pulls (as : List Assignment) (s : Session σ) :
    ((as.forM fun a => (Act.emit (.pulled a) : Act σ Unit)) s).2.seen = s.seen := by
  have halike : Alike ((as.forM fun a => Act.emit (.pulled a)) >>= fun _ => pure ())
      (pure () : Act σ PUnit) := Alike.pulls_bind (Alike.pure ())
  rw [bind_pure] at halike
  exact (halike s s rfl).2

section Judge

variable {t : Template} {h : Harness σ} {failing : List String} {window index i : Nat}

theorem judgeAll_of_take {stats : Stats} {supply supply' : Candidates} {a : Assignment}
    {as : List Assignment} (htake : supply.take window = (a :: as, supply')) :
    judgeAll t h failing window index stats supply = (do
      (a :: as).forM fun a => Act.emit (.pulled a)
      match buildAll t (a :: as) with
      | .error e => return .error (.build e)
      | .ok variants =>
        match ← judgeBatch h failing index stats variants with
        | (i, st, some fix) => return .ok (i, st, some fix)
        | (i, st, none) => judgeAll t h failing window i st supply') := by
  rw [judgeAll]
  split
  · next supply'' hnil =>
    rw [htake] at hnil
    cases hnil
  · next b bs supply'' hcons =>
    rw [htake] at hcons
    cases hcons
    rfl

theorem judgeAll_apply (t : Template) (h : Harness σ) (failing : List String) (hw : 0 < window)
    (index : Nat) (stats : Stats) {supply : Candidates} (hne : supply.toList ≠ [])
    (s : Session σ) :
    ∃ s₁ : Session σ, s₁.seen = s.seen ∧
      judgeAll t h failing window index stats supply s =
        (match buildAll t (supply.toList.take window) with
        | .error e =>
          (pure (.error (.build e)) : Act σ (Except Failure (Nat × Stats × Option Fix)))
        | .ok vs => do
          match ← judgeBatch h failing index stats vs with
          | (i, st, some fix) => return .ok (i, st, some fix)
          | (i, st, none) => judgeAll t h failing window i st (supply.take window).2) s₁ := by
  rw [← (Candidates.take_eq window supply).1]
  cases htake : supply.take window with
  | mk as supply' =>
    cases as with
    | nil => exact absurd (Candidates.toList_of_take_nil hw (by rw [htake])) hne
    | cons a as =>
      rw [judgeAll_of_take htake, bind_apply]
      refine ⟨_, seen_pulls (a :: as) s, ?_⟩
      cases buildAll t (a :: as) with
      | error e => rfl
      | ok vs => rfl

theorem judgeAll_of_le (hw : 0 < window) {k : Nat} {stats st : Stats} {supply : Candidates}
    {variants : List (Assignment × String)} {fix : Fix} {s s' : Session σ} (hs : s.seen = s'.seen)
    (hb : buildAll t (supply.toList.take k) = .ok variants)
    (hj : (judgeBatch h failing index stats variants s').1 = (i, st, some fix))
    (hne : supply.toList ≠ []) (hle : k ≤ window) :
    (judgeAll t h failing window index stats supply s).1 =
      ((buildAll t (supply.toList.take window)).map
        fun _ => (i, st, some fix)).mapError .build := by
  obtain ⟨s₁, hs₁, hstep⟩ := judgeAll_apply t h failing hw index stats hne s
  rw [hstep]
  cases hvs : buildAll t (supply.toList.take window) with
  | error e => rfl
  | ok vs =>
    -- What stands behind the winner in its window is built but never judged.
    rw [← Nat.add_sub_cancel' hle, List.take_add] at hvs
    obtain ⟨us, ws, hus, -, rfl⟩ := ok_of_buildAll_append hvs
    obtain rfl : variants = us := Except.ok.inj (hb.symm.trans hus)
    have hjudge := (Alike.judgeBatch h failing index stats variants s₁ s' (hs₁.trans hs)).1.trans hj
    dsimp only
    rw [judgeBatch_append, bind_assoc, bind_apply, hjudge]
    rfl

theorem judgeAll_of_none (hw : 0 < window) {stats st : Stats} {supply : Candidates}
    {us : List (Assignment × String)} {s s' : Session σ} (hs : s.seen = s'.seen)
    (hus : buildAll t (supply.toList.take window) = .ok us)
    (hj : (judgeBatch h failing index stats us s').1 = (i, st, none)) (hne : supply.toList ≠ []) :
    ∃ s₂ : Session σ, s₂.seen = (judgeBatch h failing index stats us s').2.seen ∧
      judgeAll t h failing window index stats supply s =
        judgeAll t h failing window i st (supply.take window).2 s₂ := by
  obtain ⟨s₁, hs₁, hstep⟩ := judgeAll_apply t h failing hw index stats hne s
  obtain ⟨hresult, hseen⟩ := Alike.judgeBatch h failing index stats us s₁ s' (hs₁.trans hs)
  refine ⟨_, hseen, ?_⟩
  rw [hstep, hus]
  dsimp only
  rw [bind_apply, hresult, hj]

theorem judgeAll_winner (hw : 0 < window) {k : Nat} {stats st : Stats} {supply : Candidates}
    {variants : List (Assignment × String)} {fix : Fix} {s s' : Session σ} (hs : s.seen = s'.seen)
    (hb : buildAll t (supply.toList.take k) = .ok variants)
    (hj : (judgeBatch h failing index stats variants s').1 = (i, st, some fix))
    (hk : fix.index = index + k) :
    (judgeAll t h failing window index stats supply s).1 =
      ((buildAll t (supply.toList.take (windowEnd window k))).map
        fun _ => (i, st, some fix)).mapError .build := by
  induction k using Nat.strong_induction_on generalizing index stats supply variants s s' with
  | h k ih =>
    obtain ⟨hpos, hlast⟩ := index_of_judgeBatch hj
    rw [length_of_buildAll hb, List.length_take] at hlast
    have hne : supply.toList ≠ [] := List.ne_nil_of_length_pos (by omega)
    by_cases hle : k ≤ window
    · rw [windowEnd_of_le (by omega) hle, judgeAll_of_le hw hs hb hj hne hle]
    · have hlt : window < k := by omega
      have hsplit (m : Nat) : supply.toList.take (window + m) = supply.toList.take window ++
          (supply.take window).2.toList.take m := by
        rw [(Candidates.take_eq window supply).2, ← List.take_add]
      rw [← Nat.add_sub_cancel' hlt.le, hsplit] at hb
      obtain ⟨us, ws, hus, hws, rfl⟩ := ok_of_buildAll_append hb
      have hlen : us.length = window := by
        rw [length_of_buildAll hus, List.length_take]
        omega
      rw [judgeBatch_append, bind_apply] at hj
      -- The winner lies beyond this window, so the window ends without an acceptance.
      rcases hfirst : (judgeBatch h failing index stats us s').1 with ⟨i', st', fix?⟩
      rw [hfirst] at hj
      cases fix? with
      | some fix' =>
        have hbound := (index_of_judgeBatch hfirst).2
        obtain ⟨-, hrest⟩ := Prod.mk.inj hj
        obtain rfl := Option.some.inj (Prod.mk.inj hrest).2
        omega
      | none =>
        have hjudged := index_of_judgeBatch_none hfirst
        obtain ⟨s₂, hs₂, hstep⟩ := judgeAll_of_none hw hs hus hfirst hne
        rw [hstep, ih (k - window) (by omega) hs₂ hws hj (by omega), windowEnd_of_lt hw hlt,
          hsplit, buildAll_append_of_ok hus]
        cases buildAll t ((supply.take window).2.toList.take _) <;> rfl

end Judge

section Assignments

variable {t : Template} {h : Harness σ} {supply : Candidates} {k : Nat}
  {variants : List (Assignment × String)} {fix : Fix} {failing : List String} {stats : Stats}
  {s : Session σ}

theorem runAssignments_window (original : String) (options : Options)
    (hb : buildAll t (supply.toList.take k) = .ok variants)
    (hwins : (searchList original h variants s).1 = .ok ⟨.accepted fix, failing, stats⟩)
    (hk : fix.index = k) :
    (runAssignments t original h options supply s).1 =
      ((buildAll t (supply.toList.take (windowEnd (max options.lookahead 1) k))).map
        fun _ => ⟨.accepted fix, failing, stats⟩).mapError .build := by
  have hw : 0 < max options.lookahead 1 := by omega
  rw [searchList, bind_apply] at hwins
  rw [runAssignments, bind_apply]
  cases hfailing : (failingTests h original s).1 with
  | error e => rw [hfailing] at hwins; cases hwins
  | ok names =>
    rw [hfailing] at hwins
    cases names with
    | nil => cases hwins
    | cons test tests =>
      dsimp only at hwins ⊢
      rw [bind_apply, bind_apply, bind_apply] at hwins ⊢
      generalize (Act.emit .opened _).2 = s₁ at hwins ⊢
      rcases hj : (judgeBatch h (test :: tests) 0 {} variants s₁).1 with ⟨i, st, fix?⟩
      rw [hj] at hwins
      cases fix? with
      | none => cases hwins
      | some fix' =>
        obtain ⟨rfl, rfl, rfl⟩ : fix' = fix ∧ test :: tests = failing ∧ st = stats := by
          have hreport := Except.ok.inj hwins
          injection hreport with hout hnames hstats
          exact ⟨Outcome.accepted.inj hout, hnames, hstats⟩
        have hindex : fix'.index = 0 + k := hk.trans (Nat.zero_add k).symm
        rw [judgeAll_winner hw rfl hb hj hindex]
        cases buildAll t (supply.toList.take _) <;> rfl

/-- A search reports the first variant that is accepted exactly if all assignments behind it in its
window can be built, and else fails with an error of one of these. What comes after the window has
no say, and nothing has if the window ends with the winner, as a window of one assignment does. -/
theorem runAssignments_winner (original : String) (options : Options)
    (hb : buildAll t (supply.toList.take k) = .ok variants)
    (hwins : (searchList original h variants s).1 = .ok ⟨.accepted fix, failing, stats⟩)
    (hk : fix.index = k) :
    let window := max options.lookahead 1
    let behind := (supply.toList.take (windowEnd window k)).drop k
    let r := (runAssignments t original h options supply).run s
    (r.1 = .ok ⟨.accepted fix, failing, stats⟩ ↔ ∀ a ∈ behind, ∃ n, build t a = .ok n) ∧
    ((∃ a ∈ behind, ∃ e, build t a = .error e) →
      ∃ a ∈ behind, ∃ e, build t a = .error e ∧ r.1 = .error (.build e)) ∧
    (window ∣ k → r.1 = .ok ⟨.accepted fix, failing, stats⟩) := by
  intro window behind r
  have hw : 0 < window := by omega
  have hsplit : supply.toList.take (windowEnd window k) = supply.toList.take k ++ behind := by
    have htake : (supply.toList.take (windowEnd window k)).take k = supply.toList.take k := by
      rw [List.take_take, Nat.min_eq_left (le_windowEnd hw)]
    rw [← htake, List.take_append_drop]
  have hr : r.1 = _ := runAssignments_window original options hb hwins hk
  rw [hsplit, buildAll_append_of_ok hb] at hr
  cases hbehind : buildAll t behind with
  | ok ws =>
    have hall := exists_buildAll_iff.mp ⟨ws, hbehind⟩
    have hwon : r.1 = .ok ⟨.accepted fix, failing, stats⟩ := by rw [hr, hbehind]; rfl
    refine ⟨iff_of_true hwon hall, ?_, fun _ => hwon⟩
    rintro ⟨a, ha, e, he⟩
    obtain ⟨n, hn⟩ := hall a ha
    rw [he] at hn
    cases hn
  | error e =>
    have hlost : r.1 = .error (.build e) := by rw [hr, hbehind]; rfl
    obtain ⟨a, ha, he⟩ := exists_of_buildAll_error hbehind
    refine ⟨iff_of_false ?_ ?_, fun _ => ⟨a, ha, e, he, hlost⟩, ?_⟩
    · rw [hlost]
      intro hc
      cases hc
    · intro hall
      obtain ⟨n, hn⟩ := hall a ha
      rw [he] at hn
      cases hn
    · intro hdvd
      rw [show behind = [] by
        change (supply.toList.take (windowEnd window k)).drop k = []
        rw [windowEnd_of_dvd hw hdvd, List.drop_take_self]] at ha
      cases ha

end Assignments

def boundFix : Fix := ⟨1, ⟨[some 1, some 0, some 0]⟩, "xs.select do x>=3 end.empty?"⟩

def fixThenBlank : Candidates := .listed [boundFix.assignment, ⟨[none, none, none]⟩]

theorem toList_fixThenBlank :
    fixThenBlank.toList = [boundFix.assignment, ⟨[none, none, none]⟩] := by
  rw [fixThenBlank, Candidates.toList_of_some rfl, Candidates.toList_of_some rfl,
    Candidates.toList_of_none rfl]

theorem boundFix_wins :
    buildAll (detect nested) (fixThenBlank.toList.take 1) =
        .ok [(boundFix.assignment, boundFix.source)] ∧
      (searchList nested.text boundSuite [(boundFix.assignment, boundFix.source)] ⟨{}, #[]⟩).1 =
        .ok ⟨.accepted boundFix, ["bound"], { judged := 1 }⟩ := by
  rw [toList_fixThenBlank]
  decide +kernel

theorem runAssignments_winner_nested :
    buildAll (detect nested) (fixThenBlank.toList.take 1) =
        .ok [(boundFix.assignment, boundFix.source)] ∧
      (searchList nested.text boundSuite [(boundFix.assignment, boundFix.source)] ⟨{}, #[]⟩).1 =
        .ok ⟨.accepted boundFix, ["bound"], { judged := 1 }⟩ ∧
      boundFix.index = 1 ∧
      ((runAssignments (detect nested) nested.text boundSuite ⟨1⟩ fixThenBlank).run ⟨{}, #[]⟩).1 =
        .ok ⟨.accepted boundFix, ["bound"], { judged := 1 }⟩ := by
  obtain ⟨hb, hwins⟩ := boundFix_wins
  obtain ⟨-, -, hwon⟩ := runAssignments_winner nested.text ⟨1⟩ hb hwins rfl
  exact ⟨hb, hwins, rfl, hwon (Nat.dvd_refl 1)⟩

theorem runAssignments_hides_winner :
    buildAll (detect nested) (fixThenBlank.toList.take 1) =
        .ok [(boundFix.assignment, boundFix.source)] ∧
      (searchList nested.text boundSuite [(boundFix.assignment, boundFix.source)] ⟨{}, #[]⟩).1 =
        .ok ⟨.accepted boundFix, ["bound"], { judged := 1 }⟩ ∧
      boundFix.index = 1 ∧
      ((runAssignments (detect nested) nested.text boundSuite ⟨2⟩ fixThenBlank).run ⟨{}, #[]⟩).1 =
        .error (.build (.incomplete 0)) := by
  obtain ⟨hb, hwins⟩ := boundFix_wins
  refine ⟨hb, hwins, rfl, (runAssignments_window nested.text ⟨2⟩ hb hwins rfl).trans ?_⟩
  rw [toList_fixThenBlank]
  decide +kernel

end Mender.Search
