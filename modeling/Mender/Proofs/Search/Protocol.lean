import Mender.Proofs.Search.Trace

/-!
The protocol between a search and its harness: which calls may follow which answers. It is a grammar
of exchanges, a call together with the answer to it or a verdict, and says nothing of how a harness
comes by its answers.
-/

namespace Mender.Search

variable {σ : Type}

inductive Exchange where
  | load (source : String) (loaded : Bool)
  | run (test : String) (passed : Bool)
  | verdict (index : Nat) (verdict : Verdict)
  deriving DecidableEq, Repr

def Exchange.event : Exchange → Event
  | load source _ => .load source
  | run test _ => .run test
  | verdict index v => .judged index v

/-- Called in the order of the exchanges from the first state on, the harness gives their answers
and ends in the second state. A run that breaks is a run that does not pass. -/
inductive Harness.Answers (h : Harness σ) : σ → List Exchange → σ → Prop
  | nil (u : σ) : Answers h u [] u
  | load {u v : σ} {es : List Exchange} (source : String) (loaded : Bool)
      (hl : loaded = true ↔ (h.load source u).result = .ok ())
      (hes : Answers h (h.load source u).state es v) : Answers h u (.load source loaded :: es) v
  | run {u v : σ} {es : List Exchange} (test : String) (passed : Bool)
      (hp : passed = true ↔ (h.run test u).result = .ok true)
      (hes : Answers h (h.run test u).state es v) : Answers h u (.run test passed :: es) v
  | verdict {u v : σ} {es : List Exchange} (index : Nat) (given : Verdict)
      (hes : Answers h u es v) : Answers h u (.verdict index given :: es) v

theorem Harness.Answers.append {h : Harness σ} {u v w : σ} {es es' : List Exchange}
    (hes : h.Answers u es v) (hes' : h.Answers v es' w) : h.Answers u (es ++ es') w := by
  induction hes with
  | nil => exact hes'
  | load source loaded hl _ ih => exact .load source loaded hl (ih hes')
  | run test passed hp _ ih => exact .run test passed hp (ih hes')
  | verdict index given _ ih => exact .verdict index given (ih hes')

theorem Harness.Answers.split {h : Harness σ} {u w : σ} {es es' : List Exchange}
    (hes : h.Answers u (es ++ es') w) : ∃ v, h.Answers u es v ∧ h.Answers v es' w := by
  induction es generalizing u with
  | nil => exact ⟨u, .nil u, hes⟩
  | cons e es ih =>
    cases hes with
    | load source loaded hl hrest =>
      obtain ⟨v, hv, hw⟩ := ih hrest
      exact ⟨v, .load source loaded hl hv, hw⟩
    | run test passed hp hrest =>
      obtain ⟨v, hv, hw⟩ := ih hrest
      exact ⟨v, .run test passed hp hv, hw⟩
    | verdict index given hrest =>
      obtain ⟨v, hv, hw⟩ := ih hrest
      exact ⟨v, .verdict index given hv, hw⟩

theorem Harness.Answers.backward {h : Harness σ} {P : σ → Prop} {u v : σ} {es : List Exchange}
    (hes : h.Answers u es v) (hload : ∀ source w, P (h.load source w).state → P w)
    (hrun : ∀ test w, P (h.run test w).state → P w) (hv : P v) : P u := by
  induction hes with
  | nil => exact hv
  | load source _ _ _ ih => exact hload source _ (ih hv)
  | run test _ _ _ ih => exact hrun test _ (ih hv)
  | verdict _ _ _ ih => exact ih hv

/-- Some run among the exchanges changes what `view` sees of the state. -/
def Harness.Disturbs {α : Type} (h : Harness σ) (view : σ → α) (u : σ) (es : List Exchange) :
    Prop :=
  ∃ before test passed after v, es = before ++ .run test passed :: after ∧
    h.Answers u before v ∧ view (h.run test v).state ≠ view v

theorem Harness.Disturbs.cons {α : Type} {h : Harness σ} {view : σ → α} {u v : σ} {e : Exchange}
    {es : List Exchange} (he : h.Answers u [e] v) (hes : h.Disturbs view v es) :
    h.Disturbs view u (e :: es) := by
  obtain ⟨before, test, passed, after, w, rfl, hw, hne⟩ := hes
  exact ⟨e :: before, test, passed, after, w, rfl, he.append hw, hne⟩

theorem Harness.Answers.view_or_disturbs {α : Type} {h : Harness σ} {u v : σ}
    {es : List Exchange} (hes : h.Answers u es v) (view : σ → α)
    (hload : ∀ source loaded w, .load source loaded ∈ es → view (h.load source w).state = view w) :
    view v = view u ∨ h.Disturbs view u es := by
  induction hes with
  | nil => exact Or.inl rfl
  | @load u _ _ source loaded hl _ ih =>
    have hkeep := hload source loaded u List.mem_cons_self
    rcases ih fun s l w hs => hload s l w (List.mem_cons_of_mem _ hs) with hv | hd
    · exact Or.inl (hv.trans hkeep)
    · exact Or.inr (hd.cons (.load source loaded hl (.nil _)))
  | @run u _ es test passed hp _ ih =>
    by_cases hkeep : view (h.run test u).state = view u
    · rcases ih fun s l w hs => hload s l w (List.mem_cons_of_mem _ hs) with hv | hd
      · exact Or.inl (hv.trans hkeep)
      · exact Or.inr (hd.cons (.run test passed hp (.nil _)))
    · exact Or.inr ⟨[], test, passed, es, u, rfl, .nil u, hkeep⟩
  | verdict index given _ ih =>
    rcases ih fun s l w hs => hload s l w (List.mem_cons_of_mem _ hs) with hv | hd
    · exact Or.inl hv
    · exact Or.inr (hd.cons (.verdict index given (.nil _)))

inductive Checks : List String → Bool → List Exchange → Prop
  | done : Checks [] true []
  | failed (test : String) (tests : List String) : Checks (test :: tests) false [.run test false]
  | passed {tests : List String} {outcome : Bool} {es : List Exchange} (test : String)
      (hes : Checks tests outcome es) : Checks (test :: tests) outcome (.run test true :: es)

inductive Trial (failing suite : List String) (source : String) : Verdict → List Exchange → Prop
  | refused : Trial failing suite source .loadFailed [.load source false]
  | bug {es : List Exchange} (hes : Checks failing false es) :
      Trial failing suite source .bugOracleFailed (.load source true :: es)
  | regression {es es' : List Exchange} (hes : Checks failing true es)
      (hes' : Checks suite false es') :
      Trial failing suite source .regressionOracleFailed (.load source true :: (es ++ es'))
  | accepted {es es' : List Exchange} (hes : Checks failing true es)
      (hes' : Checks suite true es') :
      Trial failing suite source .accepted (.load source true :: (es ++ es'))

inductive Trials (failing suite : List String) :
    Nat → List String → Option Nat → List Exchange → Prop
  | exhausted (judged : Nat) : Trials failing suite judged [] none []
  | accepted {source : String} {es : List Exchange} (judged : Nat) (texts : List String)
      (hes : Trial failing suite source .accepted es) :
      Trials failing suite judged (source :: texts) (some (judged + 1))
        (es ++ [.verdict (judged + 1) .accepted])
  | rejected {judged : Nat} {source : String} {texts : List String} {winner : Option Nat}
      {es es' : List Exchange} {v : Verdict} (hv : v ≠ .accepted)
      (hes : Trial failing suite source v es)
      (hes' : Trials failing suite (judged + 1) texts winner es') :
      Trials failing suite judged (source :: texts) winner
        (es ++ .verdict (judged + 1) v :: es')

def failed (results : List (String × Bool)) : List String :=
  (results.filter fun r => !r.2).map (·.1)

/-- A whole search: the list of failing tests, if the original loads, and the number of the variant
that was accepted, if there is one. -/
inductive Conversation (original : String) (suite texts : List String) :
    Option (List String) → Option Nat → List Exchange → Prop
  | refused : Conversation original suite texts none none [.load original false]
  | passed {results : List (String × Bool)} (hsuite : results.map (·.1) = suite)
      (hf : failed results = []) :
      Conversation original suite texts (some []) none
        (.load original true :: results.map fun r => .run r.1 r.2)
  | searched {results : List (String × Bool)} {winner : Option Nat} {es : List Exchange}
      (hsuite : results.map (·.1) = suite) (hf : failed results ≠ [])
      (hes : Trials (failed results) suite 0 texts winner es) :
      Conversation original suite texts (some (failed results)) winner
        (.load original true :: (results.map (fun r => .run r.1 r.2) ++ es))

/-- No test runs unless the latest load succeeded; `loaded` says so of the time before. -/
def RunsLoaded (loaded : Bool) : List Exchange → Prop
  | [] => True
  | .load _ loaded :: es => RunsLoaded loaded es
  | .run _ _ :: es => loaded = true ∧ RunsLoaded loaded es
  | .verdict _ _ :: es => RunsLoaded loaded es

def Loadless (es : List Exchange) : Prop := ∀ source loaded, .load source loaded ∉ es

theorem RunsLoaded.exists_load {before after : List Exchange} {test : String} {passed b : Bool}
    (h : RunsLoaded b (before ++ .run test passed :: after)) :
    (b = true ∧ Loadless before) ∨
      ∃ earlier text since, before = earlier ++ .load text true :: since ∧ Loadless since := by
  induction before generalizing b with
  | nil => exact Or.inl ⟨h.1, fun _ _ => List.not_mem_nil⟩
  | cons e before ih =>
    have hlater : ∀ earlier text since, before = earlier ++ .load text true :: since →
        Loadless since → ∃ earlier text since,
          e :: before = earlier ++ .load text true :: since ∧ Loadless since :=
      fun earlier text since he hs => ⟨e :: earlier, text, since, by rw [he]; rfl, hs⟩
    cases e with
    | load source loaded =>
      rcases ih h with ⟨rfl, hnone⟩ | ⟨earlier, text, since, he, hs⟩
      · exact Or.inr ⟨[], source, before, rfl, hnone⟩
      · exact Or.inr (hlater earlier text since he hs)
    | run test passed =>
      rcases ih h.2 with ⟨hb, hnone⟩ | ⟨earlier, text, since, he, hs⟩
      · exact Or.inl ⟨hb, fun source loaded => by simpa using hnone source loaded⟩
      · exact Or.inr (hlater earlier text since he hs)
    | verdict index given =>
      rcases ih h with ⟨hb, hnone⟩ | ⟨earlier, text, since, he, hs⟩
      · exact Or.inl ⟨hb, fun source loaded => by simpa using hnone source loaded⟩
      · exact Or.inr (hlater earlier text since he hs)

theorem mem_loaded {source : String} {ok : Bool} {es : List Exchange}
    (h : .load source ok ∈ es) : source ∈ loaded (es.map Exchange.event) := by
  rw [loaded, List.filterMap_map, List.mem_filterMap]
  exact ⟨_, h, rfl⟩

section Grammar

variable {failing suite tests texts : List String} {source original : String} {v : Verdict}
  {outcome ok : Bool} {judged : Nat} {winner : Option Nat} {es rest : List Exchange}

theorem Checks.runsLoaded (h : Checks tests outcome es) (hrest : RunsLoaded true rest) :
    RunsLoaded true (es ++ rest) := by
  induction h with
  | done => exact hrest
  | failed => exact ⟨rfl, hrest⟩
  | passed _ _ ih => exact ⟨rfl, ih⟩

theorem Trial.runsLoaded (h : Trial failing suite source v es)
    (hrest : ∀ b, RunsLoaded b rest) : RunsLoaded ok (es ++ rest) := by
  cases h with
  | refused => exact hrest false
  | bug hes => exact hes.runsLoaded (hrest true)
  | regression hes hes' | accepted hes hes' =>
    rw [List.cons_append, List.append_assoc]
    exact hes.runsLoaded (hes'.runsLoaded (hrest true))

theorem Trials.runsLoaded (h : Trials failing suite judged texts winner es) :
    RunsLoaded ok es := by
  induction h generalizing ok with
  | exhausted => exact True.intro
  | accepted _ _ hes => exact hes.runsLoaded fun _ => True.intro
  | rejected _ hes _ ih => exact hes.runsLoaded fun _ => ih

theorem runsLoaded_results (results : List (String × Bool)) (hrest : RunsLoaded true rest) :
    RunsLoaded true (results.map (fun r => Exchange.run r.1 r.2) ++ rest) := by
  induction results with
  | nil => exact hrest
  | cons r results ih => exact ⟨rfl, ih⟩

theorem Conversation.runsLoaded {failing? : Option (List String)}
    (h : Conversation original suite texts failing? winner es) : RunsLoaded false es := by
  cases h with
  | refused => exact True.intro
  | @passed results =>
    rw [← List.append_nil (results.map _)]
    exact runsLoaded_results results True.intro
  | searched _ _ hes => exact runsLoaded_results _ hes.runsLoaded

theorem Checks.loaded (h : Checks tests outcome es) : loaded (es.map Exchange.event) = [] := by
  induction h with
  | done => rfl
  | failed => rfl
  | passed _ _ ih => exact ih

theorem Trial.loaded (h : Trial failing suite source v es) :
    loaded (es.map Exchange.event) = [source] := by
  cases h with
  | refused => rfl
  | bug hes => exact congrArg (source :: ·) hes.loaded
  | regression hes hes' | accepted hes hes' =>
    simp [Exchange.event, hes.loaded, hes'.loaded]

theorem Trials.loaded (h : Trials failing suite judged texts winner es) :
    ∃ n, loaded (es.map Exchange.event) = texts.take n ∧
      (winner = none → n = texts.length) ∧ ∀ k ∈ winner, k = judged + n := by
  induction h with
  | exhausted => exact ⟨0, rfl, fun _ => rfl, fun _ hk => by cases hk⟩
  | accepted judged texts hes =>
    refine ⟨1, by simp [Exchange.event, hes.loaded], ?_, ?_⟩
    · intro hw
      cases hw
    · rintro _ ⟨⟩
      rfl
  | rejected _ hes _ ih =>
    obtain ⟨n, hn, hnone, hsome⟩ := ih
    refine ⟨n + 1, by simp [Exchange.event, hes.loaded, hn], fun hw => ?_, fun k hk => ?_⟩
    · rw [hnone hw, List.length_cons]
    · have := hsome k hk
      omega

theorem Trials.winner_bounds (h : Trials failing suite judged texts winner es) :
    ∀ k ∈ winner, judged < k ∧ k ≤ judged + texts.length := by
  induction h with
  | exhausted => simp
  | accepted => simp
  | rejected _ _ _ ih =>
    intro k hk
    have := ih k hk
    rw [List.length_cons]
    omega

theorem loaded_results (results : List (String × Bool)) :
    loaded ((results.map fun r => Exchange.run r.1 r.2).map Exchange.event) = [] := by
  induction results with
  | nil => rfl
  | cons r results ih => exact ih

theorem Conversation.loaded {failing? : Option (List String)}
    (h : Conversation original suite texts failing? winner es) :
    ∃ n, loaded (es.map Exchange.event) = original :: texts.take n ∧ (∀ k ∈ winner, k = n) ∧
      ∀ names ∈ failing?, names ≠ [] → winner = none → n = texts.length := by
  cases h with
  | refused => exact ⟨0, rfl, by simp, by simp⟩
  | passed => exact ⟨0, congrArg (original :: ·) (loaded_results _), by simp, by simp⟩
  | searched _ _ hes =>
    obtain ⟨n, hn, hnone, hsome⟩ := hes.loaded
    refine ⟨n, ?_, fun k hk => (hsome k hk).trans (Nat.zero_add n), fun _ _ _ => hnone⟩
    simp only [List.map_cons, List.map_append, Exchange.event, loaded_load, loaded_append,
      loaded_results, hn, List.nil_append]

theorem Checks.no_verdict (h : Checks tests outcome es) (i : Nat) (v : Verdict) :
    .verdict i v ∉ es := by
  induction h with
  | done => simp
  | failed => simp
  | passed _ _ ih => simpa using ih

theorem Trial.no_verdict (h : Trial failing suite source v es) (i : Nat) (w : Verdict) :
    .verdict i w ∉ es := by
  cases h with
  | refused => simp
  | bug hes => simpa using hes.no_verdict i w
  | regression hes hes' | accepted hes hes' =>
    simpa using ⟨hes.no_verdict i w, hes'.no_verdict i w⟩

theorem mem_dropLast_append {α : Type} {e : α} {xs ys : List α}
    (h : e ∈ (xs ++ ys).dropLast) : e ∈ xs ∨ e ∈ ys.dropLast := by
  cases ys with
  | nil =>
    rw [List.append_nil] at h
    exact Or.inl (List.dropLast_subset xs h)
  | cons y ys =>
    rwa [List.dropLast_append_of_ne_nil (List.cons_ne_nil y ys), List.mem_append] at h

theorem Trials.accepted_last (h : Trials failing suite judged texts winner es) (i : Nat) :
    .verdict i .accepted ∉ es.dropLast := by
  induction h with
  | exhausted => simp
  | accepted _ _ hes =>
    rw [List.dropLast_concat]
    exact hes.no_verdict i .accepted
  | rejected hv hes _ ih =>
    intro hi
    rcases mem_dropLast_append hi with h | h
    · exact hes.no_verdict i .accepted h
    · rw [← List.singleton_append] at h
      rcases mem_dropLast_append h with h | h
      · rw [List.mem_singleton] at h
        exact hv (Exchange.verdict.inj h).2.symm
      · exact ih h

theorem Conversation.accepted_last {failing? : Option (List String)}
    (h : Conversation original suite texts failing? winner es) (i : Nat) :
    .verdict i .accepted ∉ es.dropLast := by
  have hresults (results : List (String × Bool)) :
      Exchange.verdict i .accepted ∉ results.map fun r => .run r.1 r.2 := by simp
  cases h with
  | refused => simp
  | @passed results =>
    intro hi
    rw [← List.singleton_append] at hi
    rcases mem_dropLast_append hi with h | h
    · simp at h
    · exact hresults results (List.dropLast_subset _ h)
  | @searched results _ es _ _ hes =>
    intro hi
    rw [← List.cons_append] at hi
    rcases mem_dropLast_append hi with h | h
    · simp at h
    · exact hes.accepted_last i h

end Grammar

end Mender.Search
