import Mender.Proofs.Search.Ledger

namespace Mender.Search

open Syntax Hotspot Variant

variable {σ : Type} {t : Template}

theorem getElem?_of_buildAll {as : List Assignment} {vs : List (Assignment × String)}
    (h : buildAll t as = .ok vs) {j : Nat} {v : Assignment × String} (hv : vs[j]? = some v) :
    as[j]? = some v.1 ∧ ∃ n, build t v.1 = .ok n ∧ n.text = v.2 := by
  induction as generalizing vs j with
  | nil =>
    obtain rfl : [] = vs := Except.ok.inj h
    cases hv
  | cons a as ih =>
    rw [buildAll_cons] at h
    cases ha : build t a with
    | error e => rw [ha] at h; cases h
    | ok n =>
      rw [ha] at h
      cases has : buildAll t as with
      | error e => rw [has] at h; cases h
      | ok us =>
        rw [has] at h
        obtain rfl : (a, n.text) :: us = vs := Except.ok.inj h
        cases j with
        | zero =>
          obtain rfl := Option.some.inj hv
          exact ⟨rfl, n, ha, rfl⟩
        | succ j => exact ih has hv

/-- What a report has to say when the given verdicts were reported on the given assignments. -/
structure Accounts (t : Template) (as : List Assignment) (given : List Verdict) (report : Report) :
    Prop where
  judged : report.stats.judged = given.length
  bugRejections : report.stats.bugRejections = given.count .bugOracleFailed
  regressionRejections : report.stats.regressionRejections = given.count .regressionOracleFailed
  loadFailures : report.stats.loadFailures = given.count .loadFailed
  sum : report.stats.judged = report.stats.bugRejections + report.stats.regressionRejections +
    report.stats.loadFailures + if report.fix?.isSome then 1 else 0
  accepted : ∀ fix, report.outcome = .accepted fix → fix.index = report.stats.judged ∧
    0 < fix.index ∧ as[fix.index - 1]? = some fix.assignment ∧
    ∃ n, build t fix.assignment = .ok n ∧ n.text = fix.source
  noFailures : report.outcome = .noFailures → report.stats = {} ∧ report.failing = []
  exhausted : report.outcome = .exhausted →
    report.failing ≠ [] ∧ report.stats.judged = as.length

theorem Judgement.counts {vs : List (Assignment × String)} {given : List Verdict}
    {r : Nat × Stats × Option Fix} (h : Judgement 0 {} vs given r) :
    r.2.1 = ⟨given.length, given.count .bugOracleFailed, given.count .regressionOracleFailed,
      given.count .loadFailed, 0⟩ := by
  rw [h.stats_eq, foldl_record]
  simp

theorem Rounds.accounts_report {window : Nat} {as : List Assignment} {l : Ledger}
    {i : Nat} {st : Stats} {fix? : Option Fix}
    (h : Rounds t window 0 {} as (.ok (i, st, fix?)) l) (hw : 0 < window) (test : String)
    (tests : List String) : ∃ given,
      l.verdicts = numbered 0 given ∧ .accepted ∉ given.dropLast ∧
        Accounts t as given ⟨fix?.elim .exhausted .accepted, test :: tests, st⟩ := by
  obtain ⟨given, hverdicts, hlast, hok⟩ := h.accounts hw
  obtain ⟨vs, hvs, -, hj, hpulled⟩ := hok _ rfl
  have hlength : i = given.length := hj.index_eq.trans (Nat.zero_add _)
  have hjudged : i = st.judged := hj.index_eq_judged rfl
  obtain rfl : st = _ := hj.counts
  have hsum := length_eq_counts given
  rw [hj.count_accepted] at hsum
  refine ⟨given, hverdicts, hlast, ?_⟩
  cases fix? with
  | some fix =>
    have hpos := hj.pos_of_some rfl
    have hindex : fix.index = i := hj.index_of_some rfl
    obtain ⟨hassignment, hbuild⟩ := getElem?_of_buildAll hvs (hj.getElem?_of_some rfl)
    rw [hpulled, List.getElem?_take, ← hlength, ← hindex, Option.ite_none_right_eq_some]
      at hassignment
    refine ⟨rfl, rfl, rfl, rfl, hsum, ?_, nofun, nofun⟩
    intro fix' hout
    obtain rfl : fix = fix' := Outcome.accepted.inj hout
    rw [← hlength, ← hindex] at hpos
    exact ⟨hindex.trans hjudged, hpos, hassignment.2, hbuild⟩
  | none =>
    have hall : given.length = vs.length := hj.length_of_none rfl
    have hpulled : l.pulled = as := hpulled.trans List.take_length
    refine ⟨rfl, rfl, rfl, rfl, hsum, nofun, nofun, ?_⟩
    intro _
    refine ⟨List.cons_ne_nil test tests, ?_⟩
    change given.length = as.length
    rw [hall, length_of_buildAll hvs, hpulled]

theorem Searched.accounts {window : Nat} {original : String} {as : List Assignment}
    {first : Except Failure (List String)} {r : Except Failure Report} {l : Ledger}
    (h : Searched t window original as first r l) (hw : 0 < window) : ∃ given,
      l.verdicts = numbered 0 given ∧ .accepted ∉ given.dropLast ∧
        ∀ report, r = .ok report → Accounts t as given report := by
  cases h with
  | refused e => exact ⟨[], rfl, List.not_mem_nil, nofun⟩
  | passed =>
    refine ⟨[], rfl, List.not_mem_nil, fun report hr => ?_⟩
    obtain rfl := Except.ok.inj hr
    exact ⟨rfl, rfl, rfl, rfl, rfl, nofun, fun _ => ⟨rfl, rfl⟩, nofun⟩
  | @searched r l test tests hrounds =>
    cases r with
    | error e =>
      obtain ⟨given, hverdicts, hlast, -⟩ := hrounds.accounts hw
      exact ⟨given, hverdicts, hlast, nofun⟩
    | ok p =>
      obtain ⟨given, hverdicts, hlast, haccounts⟩ := hrounds.accounts_report hw test tests
      refine ⟨given, hverdicts, hlast, fun report hr => ?_⟩
      obtain rfl := Except.ok.inj hr
      exact haccounts

/-- The verdicts that a search reports are numbered from one, an acceptance is the last of them, and
the report it ends with accounts for them. Without a winner every assignment was judged, which for a
detected template are all that there are. -/
theorem runAssignments_accounts (t : Template) (original : String) (h : Harness σ)
    (options : Options) (supply : Candidates) (s : Session σ) :
    let r := (runAssignments t original h options supply).run s
    (∃ evs given, r.2.events.toList = s.events.toList ++ evs ∧
      (ledger evs).verdicts = (List.range' 1 given.length).zip given ∧
      .accepted ∉ given.dropLast ∧
      ∀ report, r.1 = .ok report → Accounts t supply.toList given report) ∧
    ∀ (T : Node) (report : Report), t = detect T → supply = .counted (enumerate t) →
      r.1 = .ok report → report.outcome = .exhausted →
        report.stats.judged = (t.hotspots.map (·.kind.width)).prod := by
  intro r
  have hw : 0 < max options.lookahead 1 := by omega
  obtain ⟨evs, hevents, hsearched⟩ := runAssignments_searched t original h options supply s
  obtain ⟨given, hverdicts, hlast, haccounts⟩ := hsearched.accounts hw
  refine ⟨⟨evs, given, hevents, hverdicts, hlast, haccounts⟩, ?_⟩
  rintro T report rfl rfl hr hout
  rw [((haccounts report hr).exhausted hout).2, Candidates.toList_enumerate, List.length_map,
    List.length_range]
  rfl

def neverSuite : Harness Scripted := Scripted.harness [("never", .const false)] (.const false)

theorem exhausted_never : ∃ report,
    ((run (detect nested) nested.text neverSuite ⟨3⟩).run ⟨{}, #[]⟩).1 = .ok report ∧
      report.outcome = .exhausted := by
  have hsteady : neverSuite.Steady {} := Scripted.steady rfl (by decide) {}
  have hnever : ∀ v ∈ variants nested, neverSuite.accepts {} v.2 = false := fun v _ => rfl
  have hfails : neverSuite.Fails {} nested.text := ⟨rfl, "never", List.mem_singleton_self _, rfl⟩
  have hends := ending?_run (T := nested) (h := neverSuite) (s := ⟨{}, #[]⟩) nested.text ⟨3⟩ rfl
    hsteady
  rw [ending?_eq_exhausted_iff.mpr ⟨hfails, pick_eq_none_iff.mpr hnever⟩] at hends
  cases hrun : ((run (detect nested) nested.text neverSuite ⟨3⟩).run ⟨{}, #[]⟩).1 with
  | error e =>
    rw [hrun] at hends
    cases hends
  | ok report =>
    rw [hrun] at hends
    exact ⟨report, rfl, Option.some.inj hends⟩

theorem runAssignments_accounts_never : ∃ report evs given,
    ((run (detect nested) nested.text neverSuite ⟨3⟩).run ⟨{}, #[]⟩).1 = .ok report ∧
      ((run (detect nested) nested.text neverSuite ⟨3⟩).run ⟨{}, #[]⟩).2.events.toList = evs ∧
      report.outcome = .exhausted ∧ report.stats.judged = 16 ∧
      (ledger evs).verdicts = (List.range' 1 16).zip given ∧ report.failing ≠ [] ∧
      report.stats.bugRejections = given.count .bugOracleFailed := by
  obtain ⟨report, hrun, hout⟩ := exhausted_never
  obtain ⟨⟨evs, given, hevents, hverdicts, -, haccounts⟩, hall⟩ :=
    runAssignments_accounts (detect nested) nested.text neverSuite ⟨3⟩
      (.counted (enumerate (detect nested))) ⟨{}, #[]⟩
  have hjudged : report.stats.judged = 16 := by
    rw [hall nested report rfl rfl hrun hout]
    decide +kernel
  have hreport := haccounts report hrun
  rw [← hreport.judged, hjudged] at hverdicts
  exact ⟨report, evs, given, hrun, hevents, hout, hjudged, hverdicts,
    (hreport.exhausted hout).1, hreport.bugRejections⟩

end Mender.Search
