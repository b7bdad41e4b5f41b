import Mender.Proofs.Search.Window

/-!
What a search leaves in its trace, summed up: how often it asked for assignments, those that it
took, the texts that it loaded and the verdicts that it gave. Every harness is allowed, and
assignments that cannot be built as well.
-/

namespace Mender.Search

open Syntax Hotspot Variant

variable {σ α β : Type}

structure Ledger where
  opened : Nat
  pulled : List Assignment
  loaded : List String
  verdicts : List (Nat × Verdict)

namespace Ledger

def empty : Ledger := ⟨0, [], [], []⟩

instance : Append Ledger := ⟨fun l m =>
  ⟨l.opened + m.opened, l.pulled ++ m.pulled, l.loaded ++ m.loaded, l.verdicts ++ m.verdicts⟩⟩

@[simp] theorem mk_append (n n' : Nat) (as as' : List Assignment) (ts ts' : List String)
    (vs vs' : List (Nat × Verdict)) : (⟨n, as, ts, vs⟩ ++ ⟨n', as', ts', vs'⟩ : Ledger) =
      ⟨n + n', as ++ as', ts ++ ts', vs ++ vs'⟩ := rfl

@[simp] theorem append_empty (l : Ledger) : l ++ empty = l := by
  obtain ⟨n, as, ts, vs⟩ := l
  simp [empty]

@[simp] theorem empty_append (l : Ledger) : empty ++ l = l := by
  obtain ⟨n, as, ts, vs⟩ := l
  simp [empty]

end Ledger

def Event.isOpened : Event → Bool
  | .opened => true
  | _ => false

def Event.assignment? : Event → Option Assignment
  | .pulled a => some a
  | _ => none

def Event.verdict? : Event → Option (Nat × Verdict)
  | .judged index v => some (index, v)
  | _ => none

def ledger (es : List Event) : Ledger :=
  ⟨es.countP Event.isOpened, es.filterMap Event.assignment?, loaded es,
    es.filterMap Event.verdict?⟩

theorem ledger_append (es es' : List Event) : ledger (es ++ es') = ledger es ++ ledger es' := by
  simp [ledger]

theorem ledger_map_noted (notes : List Note) : ledger (notes.map .noted) = .empty := by
  induction notes with
  | nil => rfl
  | cons note notes ih => exact ih

def numbered (judged : Nat) (given : List Verdict) : List (Nat × Verdict) :=
  (List.range' (judged + 1) given.length).zip given

theorem numbered_cons (judged : Nat) (v : Verdict) (given : List Verdict) :
    numbered judged (v :: given) = (judged + 1, v) :: numbered (judged + 1) given := rfl

theorem numbered_append (judged : Nat) (given given' : List Verdict) :
    numbered judged (given ++ given') =
      numbered judged given ++ numbered (judged + given.length) given' := by
  induction given generalizing judged with
  | nil => rfl
  | cons v given ih =>
    have hcount : judged + 1 + given.length = judged + (v :: given).length := by
      rw [List.length_cons]
      omega
    rw [List.cons_append, numbered_cons, numbered_cons, ih, hcount, List.cons_append]

theorem map_fst_numbered (judged : Nat) (given : List Verdict) :
    (numbered judged given).map (·.1) = List.range' (judged + 1) given.length := by
  rw [numbered, List.map_fst_zip]
  rw [List.length_range']

theorem foldl_record (stats : Stats) (given : List Verdict) :
    given.foldl Stats.record stats =
      { judged := stats.judged + given.length
        bugRejections := stats.bugRejections + given.count .bugOracleFailed
        regressionRejections := stats.regressionRejections + given.count .regressionOracleFailed
        loadFailures := stats.loadFailures + given.count .loadFailed
        duration := stats.duration } := by
  induction given generalizing stats with
  | nil => rfl
  | cons v given ih =>
    rw [List.foldl_cons, ih]
    cases v <;> simp [Stats.record] <;> omega

/-- The verdicts on variants that are judged in order, up to the first that is accepted, and what
they come to. -/
inductive Judgement :
    Nat → Stats → List (Assignment × String) → List Verdict → Nat × Stats × Option Fix → Prop
  | exhausted (index : Nat) (stats : Stats) : Judgement index stats [] [] (index, stats, none)
  | accepted (index : Nat) (stats : Stats) (a : Assignment) (source : String)
      (rest : List (Assignment × String)) : Judgement index stats ((a, source) :: rest) [.accepted]
        (index + 1, stats.record .accepted, some ⟨index + 1, a, source⟩)
  | rejected {index : Nat} {stats : Stats} {rest : List (Assignment × String)}
      {given : List Verdict} {r : Nat × Stats × Option Fix} {v : Verdict}
      (variant : Assignment × String) (hv : v ≠ .accepted)
      (hrest : Judgement (index + 1) (stats.record v) rest given r) :
      Judgement index stats (variant :: rest) (v :: given) r

namespace Judgement

variable {index i : Nat} {stats st : Stats} {vs ws : List (Assignment × String)}
  {given given' : List Verdict} {r : Nat × Stats × Option Fix}

theorem append (h : Judgement index stats vs given (i, st, none))
    (h' : Judgement i st ws given' r) : Judgement index stats (vs ++ ws) (given ++ given') r := by
  generalize he : (i, st, (none : Option Fix)) = r' at h
  induction h with
  | exhausted =>
    cases he
    exact h'
  | accepted => cases he
  | rejected variant hv _ ih => exact .rejected variant hv (ih he)

theorem append_of_some {fix : Fix} (h : Judgement index stats vs given (i, st, some fix))
    (ws : List (Assignment × String)) :
    Judgement index stats (vs ++ ws) given (i, st, some fix) := by
  generalize he : (i, st, some fix) = r' at h ⊢
  induction h with
  | exhausted => cases he
  | accepted index stats a source rest => exact .accepted index stats a source (rest ++ ws)
  | rejected variant hv _ ih => exact .rejected variant hv (ih he)

theorem stats_eq (h : Judgement index stats vs given r) :
    r.2.1 = given.foldl Stats.record stats := by
  induction h with
  | exhausted => rfl
  | accepted => rfl
  | rejected _ _ _ ih => exact ih

theorem index_eq (h : Judgement index stats vs given r) : r.1 = index + given.length := by
  induction h with
  | exhausted => rfl
  | accepted => rfl
  | rejected _ _ _ ih =>
    rw [ih, List.length_cons]
    omega

/-- The number of the latest verdict and the count of the statistics go side by side. -/
theorem index_eq_judged (h : Judgement index stats vs given r) (hi : index = stats.judged) :
    r.1 = r.2.1.judged := by
  induction h with
  | exhausted => exact hi
  | accepted _ stats => rw [judged_record, hi]
  | @rejected _ stats _ _ _ v _ _ _ ih => exact ih (by rw [judged_record, hi])

theorem length_le (h : Judgement index stats vs given r) : given.length ≤ vs.length := by
  induction h with
  | exhausted => exact Nat.le_refl 0
  | accepted => simp
  | rejected _ _ _ ih => exact Nat.succ_le_succ ih

theorem length_of_none (h : Judgement index stats vs given r) (hr : r.2.2 = none) :
    given.length = vs.length := by
  induction h with
  | exhausted => rfl
  | accepted => cases hr
  | rejected _ _ _ ih => exact congrArg (· + 1) (ih hr)

theorem pos_of_some {fix : Fix} (h : Judgement index stats vs given r) (hr : r.2.2 = some fix) :
    0 < given.length := by
  cases h with
  | exhausted => cases hr
  | accepted => exact Nat.one_pos
  | rejected => exact Nat.succ_pos _

theorem accepted_last (h : Judgement index stats vs given r) : .accepted ∉ given.dropLast := by
  induction h with
  | exhausted => exact List.not_mem_nil
  | accepted => exact List.not_mem_nil
  | @rejected _ _ _ given _ v _ hv _ ih =>
    intro hm
    rw [← List.singleton_append] at hm
    rcases mem_dropLast_append hm with hhead | htail
    · exact hv (List.mem_singleton.mp hhead).symm
    · exact ih htail

theorem count_accepted (h : Judgement index stats vs given r) :
    given.count .accepted = if r.2.2.isSome then 1 else 0 := by
  induction h with
  | exhausted => rfl
  | accepted => rfl
  | rejected _ hv _ ih => rw [List.count_cons_of_ne hv, ih]

theorem not_mem_of_none (h : Judgement index stats vs given r) (hr : r.2.2 = none) :
    .accepted ∉ given := by
  rw [← List.count_eq_zero, h.count_accepted, hr]
  rfl

theorem index_of_some {fix : Fix} (h : Judgement index stats vs given r) (hr : r.2.2 = some fix) :
    fix.index = r.1 := by
  induction h with
  | exhausted => cases hr
  | accepted =>
    obtain rfl := Option.some.inj hr
    rfl
  | rejected _ _ _ ih => exact ih hr

theorem getElem?_of_some {fix : Fix} (h : Judgement index stats vs given r)
    (hr : r.2.2 = some fix) : vs[given.length - 1]? = some (fix.assignment, fix.source) := by
  induction h with
  | exhausted => cases hr
  | accepted =>
    obtain rfl := Option.some.inj hr
    rfl
  | rejected variant hv hrest ih =>
    have hvariant := ih hr
    have hpos := hrest.pos_of_some hr
    obtain ⟨m, hm⟩ : ∃ m, _ = m + 1 := ⟨_, (Nat.sub_add_cancel hpos).symm⟩
    rw [hm] at hvariant
    rw [List.length_cons, hm]
    exact hvariant

theorem mem_numbered_iff (h : Judgement index stats vs given r) (k : Nat) :
    (k, .accepted) ∈ numbered index given ↔ ∃ fix, r.2.2 = some fix ∧ fix.index = k := by
  induction h with
  | exhausted => simp [numbered]
  | accepted => simp [numbered, eq_comm]
  | @rejected _ _ _ _ _ v _ hv _ ih =>
    rw [numbered_cons, List.mem_cons, ← ih]
    constructor
    · rintro (he | hm)
      · exact absurd (Prod.mk.inj he).2.symm hv
      · exact hm
    · exact Or.inr

end Judgement

theorem length_eq_counts (given : List Verdict) :
    given.length = given.count .bugOracleFailed + given.count .regressionOracleFailed +
      given.count .loadFailed + given.count .accepted := by
  induction given with
  | nil => rfl
  | cons v given ih => cases v <;> simp <;> omega

/-- Window after window is taken off the assignments and built as a whole, then judged, until one
cannot be built or holds a variant that is accepted. -/
inductive Rounds (t : Template) (window : Nat) : Nat → Stats → List Assignment →
    Except Failure (Nat × Stats × Option Fix) → Ledger → Prop
  | done (index : Nat) (stats : Stats) :
      Rounds t window index stats [] (.ok (index, stats, none)) .empty
  | unbuilt {index : Nat} {stats : Stats} {as : List Assignment} {e : BuildError} (hne : as ≠ [])
      (hb : buildAll t (as.take window) = .error e) :
      Rounds t window index stats as (.error (.build e)) ⟨0, as.take window, [], []⟩
  | won {index i : Nat} {stats st : Stats} {as : List Assignment}
      {vs : List (Assignment × String)} {given : List Verdict} {fix : Fix} (hne : as ≠ [])
      (hb : buildAll t (as.take window) = .ok vs)
      (hj : Judgement index stats vs given (i, st, some fix)) :
      Rounds t window index stats as (.ok (i, st, some fix))
        ⟨0, as.take window, (vs.map (·.2)).take given.length, numbered index given⟩
  | lost {index i : Nat} {stats st : Stats} {as : List Assignment}
      {vs : List (Assignment × String)} {given : List Verdict}
      {r : Except Failure (Nat × Stats × Option Fix)} {l : Ledger} (hne : as ≠ [])
      (hb : buildAll t (as.take window) = .ok vs)
      (hj : Judgement index stats vs given (i, st, none))
      (hrest : Rounds t window i st (as.drop window) r l) :
      Rounds t window index stats as r
        (⟨0, as.take window, (vs.map (·.2)).take given.length, numbered index given⟩ ++ l)

namespace Rounds

variable {t : Template} {window index : Nat} {stats : Stats} {as : List Assignment}
  {r : Except Failure (Nat × Stats × Option Fix)} {l : Ledger}

theorem opened_eq (h : Rounds t window index stats as r l) : l.opened = 0 := by
  induction h with
  | done => rfl
  | unbuilt => rfl
  | won => rfl
  | lost _ _ _ _ ih => exact (Nat.zero_add _).trans ih

theorem failed (h : Rounds t window index stats as r l) {e : Failure} (hr : r = .error e) :
    ∃ a ∈ as, ∃ cause, build t a = .error cause := by
  induction h with
  | done => cases hr
  | unbuilt _ hb =>
    obtain ⟨a, ha, he⟩ := exists_of_buildAll_error hb
    exact ⟨a, List.mem_of_mem_take ha, _, he⟩
  | won => cases hr
  | lost _ _ _ _ ih =>
    obtain ⟨a, ha, he⟩ := ih hr
    exact ⟨a, List.mem_of_mem_drop ha, he⟩

theorem accounts (h : Rounds t window index stats as r l) (hw : 0 < window) : ∃ given,
    l.verdicts = numbered index given ∧ .accepted ∉ given.dropLast ∧
      ∀ r', r = .ok r' → ∃ vs, buildAll t l.pulled = .ok vs ∧
        l.loaded = (vs.map (·.2)).take given.length ∧ Judgement index stats vs given r' ∧
        l.pulled = as.take
          (if r'.2.2.isSome then windowEnd window given.length else as.length) := by
  induction h with
  | done index stats =>
    refine ⟨[], rfl, List.not_mem_nil, fun r' hr => ?_⟩
    obtain rfl := Except.ok.inj hr
    exact ⟨[], rfl, rfl, .exhausted index stats, rfl⟩
  | unbuilt => exact ⟨[], rfl, List.not_mem_nil, fun r' hr => by cases hr⟩
  | @won _ _ _ _ as vs given fix _ hb hj =>
    refine ⟨given, rfl, hj.accepted_last, fun r' hr => ?_⟩
    obtain rfl := Except.ok.inj hr
    have hpos := hj.pos_of_some rfl
    have hle := hj.length_le
    rw [length_of_buildAll hb, List.length_take] at hle
    refine ⟨vs, hb, rfl, hj, ?_⟩
    change as.take window = as.take (windowEnd window given.length)
    rw [windowEnd_of_le hpos (by omega)]
  | @lost _ i _ st as vs given r l _ hb hj hrest ih =>
    obtain ⟨given', hverdicts, hlast, hok⟩ := ih
    have hall : given.length = vs.length := hj.length_of_none rfl
    refine ⟨given ++ given', ?_, ?_, fun r' hr => ?_⟩
    · rw [numbered_append, ← hj.index_eq, ← hverdicts]
      rfl
    · intro hm
      rcases mem_dropLast_append hm with hfirst | hrest
      · exact hj.not_mem_of_none rfl hfirst
      · exact hlast hrest
    · obtain ⟨ws, hws, hloaded, hj', hpulled⟩ := hok r' hr
      refine ⟨vs ++ ws, ?_, ?_, hj.append hj', ?_⟩
      · change buildAll t (as.take window ++ l.pulled) = .ok (vs ++ ws)
        rw [buildAll_append_of_ok hb, hws]
        rfl
      · change (vs.map (·.2)).take given.length ++ l.loaded = _
        have hlen : (vs.map (·.2)).length = vs.length := List.length_map _
        have hfirst (m : Nat) : (vs.map (·.2)).take (vs.length + m) = vs.map (·.2) :=
          List.take_of_length_le (by omega)
        have hwhole : (vs.map (·.2)).take vs.length = vs.map (·.2) := hfirst 0
        rw [hloaded, List.map_append, List.length_append, hall, hwhole, List.take_append, hfirst,
          hlen, Nat.add_sub_cancel_left]
      · change as.take window ++ l.pulled = _
        cases hfix : r'.2.2 with
        | none =>
          rw [hfix] at hpulled
          change l.pulled = (as.drop window).take (as.drop window).length at hpulled
          change _ = as.take as.length
          rw [hpulled, List.take_length, List.take_append_drop, List.take_length]
        | some fix =>
          rw [hfix] at hpulled
          change l.pulled = (as.drop window).take (windowEnd window given'.length) at hpulled
          change _ = as.take (windowEnd window (given ++ given').length)
          -- A later window holds the winner, so this one was full.
          have hpos := hj'.pos_of_some hfix
          have hle := hj'.length_le
          have hrest := congrArg List.length hpulled
          rw [length_of_buildAll hws] at hle
          rw [length_of_buildAll hb, List.length_take] at hall
          rw [List.length_take, List.length_drop] at hrest
          have hfull : given.length = window := by omega
          rw [List.length_append, hfull, windowEnd_of_lt hw (by omega), Nat.add_sub_cancel_left,
            hpulled, List.take_add]

end Rounds

inductive Searched (t : Template) (window : Nat) (original : String) (as : List Assignment) :
    Except Failure (List String) → Except Failure Report → Ledger → Prop
  | refused (e : Failure) :
      Searched t window original as (.error e) (.error e) ⟨0, [], [original], []⟩
  | passed : Searched t window original as (.ok []) (.ok ⟨.noFailures, [], {}⟩)
      ⟨0, [], [original], []⟩
  | searched {r : Except Failure (Nat × Stats × Option Fix)} {l : Ledger} (test : String)
      (tests : List String) (hrounds : Rounds t window 0 {} as r l) :
      Searched t window original as (.ok (test :: tests))
        (r.map fun p => ⟨p.2.2.elim .exhausted .accepted, test :: tests, p.2.1⟩)
        (⟨1, [], [original], []⟩ ++ l)

def Records (x : Act σ α) (Q : α → Ledger → Prop) : Prop :=
  ∀ s : Session σ, ∃ evs, (x s).2.events.toList = s.events.toList ++ evs ∧ Q (x s).1 (ledger evs)

namespace Records

variable {x : Act σ α} {Q R : α → Ledger → Prop}

theorem mono (hx : Records x Q) (hQ : ∀ a l, Q a l → R a l) : Records x R := by
  intro s
  obtain ⟨evs, hevents, hq⟩ := hx s
  exact ⟨evs, hevents, hQ _ _ hq⟩

theorem pure {a : α} (hQ : Q a .empty) : Records (pure a : Act σ α) Q := fun _ =>
  ⟨[], (List.append_nil _).symm, hQ⟩

theorem bind_apply {f : α → Act σ β} {S : α → β → Ledger → Prop} (hx : Records x Q)
    (hf : ∀ a l, Q a l → Records (f a) fun b l' => S a b (l ++ l')) (s : Session σ) :
    ∃ evs, ((x >>= f) s).2.events.toList = s.events.toList ++ evs ∧
      S (x s).1 ((x >>= f) s).1 (ledger evs) := by
  obtain ⟨evs, hevents, hq⟩ := hx s
  obtain ⟨evs', hevents', hs⟩ := hf _ _ hq (x s).2
  refine ⟨evs ++ evs', ?_, ?_⟩
  · rw [← List.append_assoc, ← hevents]
    exact hevents'
  · rw [ledger_append]
    exact hs

theorem bind {f : α → Act σ β} {S : β → Ledger → Prop} (hx : Records x Q)
    (hf : ∀ a l, Q a l → Records (f a) fun b l' => S b (l ++ l')) : Records (x >>= f) S :=
  hx.bind_apply hf

theorem emit (e : Event) : Records (Act.emit e : Act σ Unit) fun _ l => l = ledger [e] := by
  intro s
  refine ⟨[e], ?_, rfl⟩
  change (s.events.push e).toList = _
  rw [Array.toList_push]

theorem reply (action : σ → Reply σ α) : Records (Act.reply action) fun _ l => l = .empty := by
  intro s
  refine ⟨(action s.state).notes.map .noted, ?_, ledger_map_noted _⟩
  change (s.events ++ ((action s.state).notes.map Event.noted).toArray).toList = _
  rw [Array.toList_append]

theorem note_bind {note : Note} {f : Unit → Act σ β} {S : β → Ledger → Prop}
    (hf : Records (f ()) S) : Records (Act.emit (.noted note) >>= f) S := by
  apply (emit _).bind
  rintro ⟨⟩ l rfl
  apply hf.mono
  intro b l hs
  exact (Ledger.empty_append l).symm ▸ hs

theorem pulls (as : List Assignment) :
    Records (as.forM fun a => (Act.emit (.pulled a) : Act σ Unit))
      fun _ l => l = ⟨0, as, [], []⟩ := by
  induction as with
  | nil => exact .pure rfl
  | cons a as ih =>
    apply (emit (.pulled a)).bind
    rintro ⟨⟩ _ rfl
    apply ih.mono
    rintro _ _ rfl
    rfl

section Harness

variable (h : Harness σ)

theorem load (source : String) :
    Records (Act.load h source) fun _ l => l = ⟨0, [], [source], []⟩ := by
  apply (emit _).bind
  rintro ⟨⟩ _ rfl
  apply (reply _).mono
  rintro r _ rfl
  rfl

theorem passes (test : String) : Records (Act.passes h test) fun _ l => l = .empty := by
  apply (emit _).bind
  rintro ⟨⟩ _ rfl
  apply (reply _).bind
  rintro r _ rfl
  cases r with
  | ok passed => exact .pure rfl
  | error e => exact note_bind (.pure rfl)

theorem allPass (tests : List String) : Records (Act.allPass h tests) fun _ l => l = .empty := by
  induction tests with
  | nil => exact .pure rfl
  | cons test tests ih =>
    apply (passes h test).bind
    rintro passed _ rfl
    simp only [Ledger.empty_append]
    cases passed with
    | true => exact ih
    | false => exact .pure rfl

theorem failures (tests : List String) :
    Records (Act.failures h tests) fun _ l => l = .empty := by
  induction tests with
  | nil => exact .pure rfl
  | cons test tests ih =>
    apply (passes h test).bind
    rintro passed _ rfl
    apply ih.bind
    rintro failing _ rfl
    exact .pure rfl

theorem failingTests (original : String) :
    Records (failingTests h original) fun _ l => l = ⟨0, [], [original], []⟩ := by
  apply (load h original).bind
  rintro r _ rfl
  cases r with
  | error e => exact .pure rfl
  | ok _ =>
    apply (failures h h.tests).bind
    rintro failing _ rfl
    exact .pure rfl

theorem judge (failing : List String) (source : String) :
    Records (judge h failing source) fun _ l => l = ⟨0, [], [source], []⟩ := by
  apply (load h source).bind
  rintro r _ rfl
  cases r with
  | error e => exact note_bind (.pure rfl)
  | ok _ =>
    apply (allPass h failing).bind
    rintro passed _ rfl
    cases passed with
    | false => exact .pure rfl
    | true =>
      apply (allPass h h.tests).bind
      rintro passed _ rfl
      cases passed <;> exact .pure rfl

theorem judgeBatch (failing : List String) (index : Nat) (stats : Stats)
    (variants : List (Assignment × String)) :
    Records (judgeBatch h failing index stats variants) fun r l => ∃ given,
      l = ⟨0, [], (variants.map (·.2)).take given.length, numbered index given⟩ ∧
        Judgement index stats variants given r := by
  induction variants generalizing index stats with
  | nil => exact .pure ⟨[], rfl, .exhausted index stats⟩
  | cons v variants ih =>
    obtain ⟨a, source⟩ := v
    apply (judge h failing source).bind
    rintro verdict _ rfl
    apply note_bind
    apply (emit _).bind
    rintro ⟨⟩ _ rfl
    by_cases hv : verdict = .accepted
    · subst hv
      exact .pure ⟨[.accepted], rfl, .accepted index stats a source variants⟩
    · rw [if_neg hv]
      apply (ih (index + 1) (stats.record verdict)).mono
      rintro r _ ⟨given, rfl, hgiven⟩
      refine ⟨verdict :: given, ?_, .rejected (a, source) hv hgiven⟩
      rw [numbered_cons]
      rfl

theorem judgeAll (t : Template) (failing : List String) {window : Nat} (hw : 0 < window)
    (index : Nat) (stats : Stats) (supply : Candidates) :
    Records (judgeAll t h failing window index stats supply)
      fun r l => Rounds t window index stats supply.toList r l := by
  induction hn : supply.left using Nat.strong_induction_on generalizing index stats supply with
  | h left ih =>
    obtain ⟨hfirst, hrest⟩ := Candidates.take_eq window supply
    cases htake : supply.take window with
    | mk batch supply' =>
      rw [htake] at hfirst hrest
      dsimp only at hfirst hrest
      cases batch with
      | nil =>
        have hnil : supply.toList = [] := Candidates.toList_of_take_nil hw (by rw [htake])
        rw [Mender.Search.judgeAll]
        split
        · rw [hnil]
          exact .pure (.done index stats)
        · next hcons =>
          rw [htake] at hcons
          cases hcons
      | cons a as =>
        have hne : supply.toList ≠ [] := by
          intro hnil
          rw [hnil, List.take_nil] at hfirst
          cases hfirst
        rw [judgeAll_of_take htake]
        apply (pulls (a :: as)).bind
        rintro ⟨⟩ _ rfl
        cases hb : buildAll t (a :: as) with
        | error e =>
          apply Records.pure
          rw [Ledger.append_empty, hfirst]
          exact .unbuilt hne (hfirst ▸ hb)
        | ok variants =>
          apply (judgeBatch h failing index stats variants).bind
          rintro ⟨i, st, fix?⟩ _ ⟨given, rfl, hgiven⟩
          rw [hfirst] at hb ⊢
          cases fix? with
          | some fix =>
            apply Records.pure
            simpa using Rounds.won hne hb hgiven
          | none =>
            have hless : supply'.left < left := hn ▸ Candidates.left_lt_of_take htake
            apply (ih supply'.left hless i st supply' rfl).mono
            intro r l hl
            rw [hrest] at hl
            have hround := Rounds.lost hne hb hgiven hl
            obtain ⟨n, as', texts, vs⟩ := l
            simpa using hround

end Harness

end Records

theorem runAssignments_searched (t : Template) (original : String) (h : Harness σ)
    (options : Options) (supply : Candidates) (s : Session σ) :
    let r := (runAssignments t original h options supply).run s
    ∃ evs, r.2.events.toList = s.events.toList ++ evs ∧
      Searched t (max options.lookahead 1) original supply.toList
        (failingTests h original s).1 r.1 (ledger evs) := by
  apply (Records.failingTests h original).bind_apply
  rintro failing _ rfl
  match failing with
  | .error e => exact .pure (.refused e)
  | .ok [] => exact Records.note_bind (.pure .passed)
  | .ok (test :: tests) =>
    apply Records.note_bind
    apply (Records.emit .opened).bind
    rintro ⟨⟩ _ rfl
    have hw : 0 < max options.lookahead 1 := by omega
    apply (Records.judgeAll h t (test :: tests) hw 0 {} supply).bind
    intro r l hrounds
    have hsearched : Searched t (max options.lookahead 1) original supply.toList
        (.ok (test :: tests)) _ (⟨1, [], [original], []⟩ ++ l) := .searched test tests hrounds
    have hsum : ⟨1, [], [original], []⟩ ++ l =
        (⟨0, [], [original], []⟩ ++ (ledger [.opened] ++ (l ++ .empty)) : Ledger) := by
      obtain ⟨n, as, texts, vs⟩ := l
      simp [ledger, Event.isOpened, Event.assignment?, Event.verdict?, loaded, Event.source?]
    rw [hsum] at hsearched
    cases r with
    | error e => exact .pure hsearched
    | ok p =>
      obtain ⟨index, stats, fix?⟩ := p
      cases fix? with
      | some fix => exact .pure hsearched
      | none => exact Records.note_bind (.pure hsearched)

end Mender.Search
