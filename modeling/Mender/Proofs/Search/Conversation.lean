import Mender.Proofs.Search.Lookahead
import Mender.Proofs.Search.Protocol
import Mender.Proofs.Variant.Distinct

namespace Mender.Search

open Syntax Hotspot Variant

variable {σ α β : Type}

theorem spoken_filter_isPull (es : List Event) :
    spoken (es.filter fun e => !e.isPull) = spoken es := by
  rw [spoken, spoken, List.filter_filter]
  apply List.filter_congr
  intro e _
  cases e <;> rfl

/-- From any session, `x` gives an answer and holds exchanges with the harness that meet `Q`. -/
def Converses (h : Harness σ) (x : Act σ α) (Q : α → List Exchange → Prop) : Prop :=
  ∀ s : Session σ, ∃ evs es, (x s).2.events.toList = s.events.toList ++ evs ∧
    spoken evs = es.map Exchange.event ∧ h.Answers s.state es (x s).2.state ∧ Q (x s).1 es

namespace Converses

variable {h : Harness σ} {x : Act σ α} {Q R : α → List Exchange → Prop}

theorem mono (hx : Converses h x Q) (hQ : ∀ a es, Q a es → R a es) : Converses h x R := by
  intro s
  obtain ⟨evs, es, hevents, hspoken, hes, hq⟩ := hx s
  exact ⟨evs, es, hevents, hspoken, hes, hQ _ es hq⟩

theorem pure {a : α} (hQ : Q a []) : Converses h (pure a : Act σ α) Q := fun s =>
  ⟨[], [], (List.append_nil _).symm, rfl, .nil s.state, hQ⟩

theorem bind {f : α → Act σ β} {S : β → List Exchange → Prop} (hx : Converses h x Q)
    (hf : ∀ a es, Q a es → Converses h (f a) fun b es' => S b (es ++ es')) :
    Converses h (x >>= f) S := by
  intro s
  obtain ⟨evs, es, hevents, hspoken, hes, hq⟩ := hx s
  obtain ⟨evs', es', hevents', hspoken', hes', hs⟩ := hf _ es hq (x s).2
  refine ⟨evs ++ evs', es ++ es', ?_, ?_, hes.append hes', hs⟩
  · rw [← List.append_assoc, ← hevents]
    exact hevents'
  · rw [spoken_append, List.map_append, hspoken, hspoken']

theorem silent_bind {e : Event} {f : Unit → Act σ β} {S : β → List Exchange → Prop}
    (he : e.isExchange = false) (hf : Converses h (f ()) S) :
    Converses h (Act.emit e >>= f) S := by
  intro s
  obtain ⟨evs, es, hevents, hspoken, hes, hs⟩ := hf ⟨s.state, s.events.push e⟩
  refine ⟨e :: evs, es, ?_, ?_, hes, hs⟩
  · rw [Array.toList_push, List.append_assoc] at hevents
    exact hevents
  · rw [← hspoken]
    exact List.filter_cons_of_neg (by rw [he]; exact Bool.false_ne_true)

theorem verdict_bind {index : Nat} {v : Verdict} {f : Unit → Act σ β}
    {S : β → List Exchange → Prop}
    (hf : Converses h (f ()) fun b es => S b (.verdict index v :: es)) :
    Converses h (Act.emit (.judged index v) >>= f) S := by
  intro s
  obtain ⟨evs, es, hevents, hspoken, hes, hs⟩ := hf ⟨s.state, s.events.push (.judged index v)⟩
  refine ⟨.judged index v :: evs, .verdict index v :: es, ?_, ?_, .verdict index v hes, hs⟩
  · rw [Array.toList_push, List.append_assoc] at hevents
    exact hevents
  · exact congrArg (.judged index v :: ·) hspoken

theorem call {action : σ → Reply σ α} {announced : Event} {e : Except Failure α → Exchange}
    (hannounced : announced.isExchange = true) (he : ∀ r, (e r).event = announced)
    (hanswers : ∀ u, h.Answers u [e (action u).result] (action u).state) :
    Converses h (Act.emit announced >>= fun _ => Act.reply action) fun r es => es = [e r] := by
  intro s
  refine ⟨announced :: (action s.state).notes.map .noted, [e (action s.state).result], ?_, ?_,
    hanswers s.state, rfl⟩
  · change (s.events.push announced ++
      ((action s.state).notes.map Event.noted).toArray).toList = _
    rw [Array.toList_append, Array.toList_push, List.append_assoc]
    rfl
  · rw [← List.singleton_append, spoken_append, spoken_map_noted, List.map_singleton, he]
    simp [spoken, hannounced]

theorem load (source : String) :
    Converses h (Act.load h source) fun r es => es = [.load source r.isOk] := by
  refine call rfl (fun _ => rfl) fun u => ?_
  refine .load source _ ?_ (.nil _)
  cases (h.load source u).result with
  | error e => exact iff_of_false Bool.false_ne_true fun hc => nomatch hc
  | ok _ => exact iff_of_true rfl rfl

theorem passes (test : String) :
    Converses h (Act.passes h test) fun passed es => es = [.run test passed] := by
  rw [Act.passes, ← bind_assoc]
  have hrun : Converses h (Act.emit (.run test) >>= fun _ => Act.reply (h.run test))
      fun r es => es = [.run test (r.toOption.getD false)] := by
    refine call rfl (fun _ => rfl) fun u => ?_
    refine .run test _ ?_ (.nil _)
    cases (h.run test u).result with
    | error e => exact iff_of_false Bool.false_ne_true fun hc => nomatch hc
    | ok passed => rw [Except.ok.injEq]; rfl
  apply hrun.bind
  rintro r _ rfl
  cases r with
  | error e => exact .silent_bind rfl (.pure rfl)
  | ok passed => exact .pure rfl

theorem allPass (tests : List String) :
    Converses h (Act.allPass h tests) fun passed es => Checks tests passed es := by
  induction tests with
  | nil => exact .pure .done
  | cons test tests ih =>
    apply (passes test).bind
    rintro passed es rfl
    cases passed with
    | true => exact ih.mono fun _ _ hes => .passed test hes
    | false => exact .pure (.failed test tests)

theorem failures (tests : List String) :
    Converses h (Act.failures h tests) fun failing es =>
      ∃ results : List (String × Bool), results.map (·.1) = tests ∧ failing = failed results ∧
        es = results.map fun r => .run r.1 r.2 := by
  induction tests with
  | nil => exact .pure ⟨[], rfl, rfl, rfl⟩
  | cons test tests ih =>
    apply (passes test).bind
    rintro passed es rfl
    apply ih.bind
    rintro failing es ⟨results, hsuite, rfl, rfl⟩
    apply Converses.pure
    refine ⟨(test, passed) :: results, by simp [hsuite], ?_, by simp⟩
    cases passed <;> simp [failed]

theorem judge (failing : List String) (source : String) :
    Converses h (judge h failing source) fun v es => Trial failing h.tests source v es := by
  apply (load source).bind
  rintro r _ rfl
  cases r with
  | error e => exact .silent_bind rfl (.pure .refused)
  | ok _ =>
    change Converses h _ fun v es => Trial failing h.tests source v (.load source true :: es)
    apply (allPass failing).bind
    intro passed es hes
    cases passed with
    | false => exact .pure (by simpa using Trial.bug hes)
    | true =>
      apply (allPass h.tests).bind
      intro passed es' hes'
      cases passed with
      | true => exact .pure (by simpa using Trial.accepted hes hes')
      | false => exact .pure (by simpa using Trial.regression hes hes')

theorem judgeBatch (failing : List String) (index : Nat) (stats : Stats)
    (variants : List (Assignment × String)) :
    Converses h (judgeBatch h failing index stats variants) fun r es =>
      Trials failing h.tests index (variants.map (·.2)) (r.2.2.map (·.index)) es ∧
        r.1 = index + (loaded (es.map Exchange.event)).length ∧
        r.2.1.judged = stats.judged + (loaded (es.map Exchange.event)).length := by
  induction variants generalizing index stats with
  | nil => exact .pure ⟨.exhausted index, rfl, rfl⟩
  | cons v variants ih =>
    obtain ⟨a, source⟩ := v
    apply (judge failing source).bind
    intro verdict es hes
    apply Converses.silent_bind rfl
    apply Converses.verdict_bind
    by_cases hv : verdict = .accepted
    · subst hv
      apply Converses.pure
      refine ⟨.accepted index _ hes, ?_, ?_⟩
      · simp [Exchange.event, hes.loaded]
      · simp [judged_record, Exchange.event, hes.loaded]
    · rw [if_neg hv]
      apply (ih (index + 1) (stats.record verdict)).mono
      rintro r es' ⟨hes', hindex, hjudged⟩
      rw [judged_record] at hjudged
      have hloaded : (loaded ((es ++ .verdict (index + 1) verdict :: es').map
          Exchange.event)).length = 1 + (loaded (es'.map Exchange.event)).length := by
        simp only [List.map_append, List.map_cons, Exchange.event, loaded_append, loaded_judged,
          hes.loaded, List.length_append, List.length_singleton]
      refine ⟨.rejected hv hes hes', ?_, ?_⟩
      · rw [hloaded, hindex, Nat.add_assoc]
      · rw [hloaded, hjudged, Nat.add_assoc]

theorem failingTests (original : String) :
    Converses h (failingTests h original) fun r es =>
      (∃ e, r = .error e ∧ es = [.load original false]) ∨
        ∃ results : List (String × Bool), results.map (·.1) = h.tests ∧ r = .ok (failed results) ∧
          es = .load original true :: results.map fun r => .run r.1 r.2 := by
  apply (load original).bind
  rintro r _ rfl
  cases r with
  | error e => exact .pure (Or.inl ⟨e, rfl, rfl⟩)
  | ok _ =>
    apply (failures h.tests).bind
    rintro failing es ⟨results, hsuite, rfl, rfl⟩
    exact .pure (Or.inr ⟨results, hsuite, rfl, by rw [List.append_nil]; rfl⟩)

theorem searchList (original : String) (variants : List (Assignment × String)) :
    Converses h (searchList original h variants) fun r es =>
      Conversation original h.tests (variants.map (·.2)) (r.toOption.map Report.failing)
        (r.toOption.bind fun report => report.fix?.map (·.index)) es ∧
      ∀ report, r = .ok report →
        report.stats.judged + 1 = (loaded (es.map Exchange.event)).length ∧
          (report.outcome = .exhausted → report.failing ≠ []) := by
  apply (failingTests original).bind
  rintro r es (⟨e, rfl, rfl⟩ | ⟨results, hsuite, rfl, rfl⟩)
  · exact .pure ⟨.refused, fun report hreport => by cases hreport⟩
  · have hsearched {winner : Option Nat} {es : List Exchange} (hne : failed results ≠ [])
        (hes : Trials (failed results) h.tests 0 (variants.map (·.2)) winner es) :
        Conversation original h.tests (variants.map (·.2)) _ winner _ :=
      .searched hsuite hne hes
    cases hf : failed results with
    | nil =>
      apply Converses.silent_bind rfl
      apply Converses.pure
      rw [List.append_nil]
      refine ⟨.passed hsuite hf, ?_⟩
      rintro report ⟨⟩
      refine ⟨?_, fun hout => by cases hout⟩
      simp only [List.map_cons, Exchange.event, loaded_load, loaded_results, List.length_singleton]
    | cons test tests =>
      rw [hf] at hsearched
      apply Converses.silent_bind rfl
      apply Converses.silent_bind rfl
      apply (judgeBatch (test :: tests) 0 {} variants).bind
      rintro ⟨index, stats, fix?⟩ es ⟨hes, -, hcount⟩
      have hall := hsearched (List.cons_ne_nil test tests) hes
      have hjudged : stats.judged + 1 = (loaded ((.load original true ::
          (results.map (fun r => .run r.1 r.2) ++ es)).map Exchange.event)).length := by
        have hstats : stats.judged = (loaded (es.map Exchange.event)).length :=
          hcount.trans (Nat.zero_add _)
        simp only [List.map_cons, List.map_append, Exchange.event, loaded_load, loaded_append,
          loaded_results, List.nil_append, List.length_cons, hstats]
      cases fix? with
      | some fix =>
        apply Converses.pure
        rw [List.append_nil]
        refine ⟨hall, ?_⟩
        rintro report ⟨⟩
        exact ⟨hjudged, fun _ => List.cons_ne_nil test tests⟩
      | none =>
        apply Converses.silent_bind rfl
        apply Converses.pure
        rw [List.append_nil]
        refine ⟨hall, ?_⟩
        rintro report ⟨⟩
        exact ⟨hjudged, fun _ => List.cons_ne_nil test tests⟩

end Converses

section Detect

variable {T : Node}

theorem nodup_texts (T : Node) : ((variants T).map (·.2)).Nodup := by
  rw [variants, List.map_map]
  apply List.Nodup.map_on _ List.nodup_range
  intro i hi j hj htext
  exact text_variantAt_injective (List.mem_range.mp hi) (List.mem_range.mp hj) htext

/-- The calls and verdicts of a search are one conversation with its harness over the texts of the
enumeration: the original and the suite on it, then the variants in order, each as far as its
oracles go, up to the first that is accepted. -/
theorem run_conversation (original : String) (h : Harness σ) (options : Options)
    (hT : T.hasHoles = false) (s : Session σ) :
    let t := detect T
    let r := (run t original h options).run s
    ∃ (texts : List String) (es : List Exchange),
      (∀ i a, (enumerate t).answer i = some a → ∃ n, build t a = .ok n ∧ texts[i]? = some n.text) ∧
      (∀ i, (enumerate t).answer i = none → texts[i]? = none) ∧ texts.Nodup ∧
      h.Answers s.state es r.2.state ∧
      spoken r.2.events.toList = spoken s.events.toList ++ es.map Exchange.event ∧
      Conversation original h.tests texts (r.1.toOption.map Report.failing)
        (r.1.toOption.bind fun report => report.fix?.map (·.index)) es ∧
      RunsLoaded false es ∧ (∀ i, .verdict i .accepted ∉ es.dropLast) ∧
      ∃ n, loaded (es.map Exchange.event) = original :: texts.take n ∧
        ∀ report, r.1 = .ok report → (∀ fix ∈ report.fix?, fix.index = n) ∧
          (report.failing ≠ [] → report.fix? = none → n = texts.length) := by
  intro t r
  -- Windows cannot be seen from outside, so the search is one over the list of variants.
  obtain ⟨hresult, hseen⟩ := run_alike hT original h options s s rfl
  obtain ⟨hstate, hevents⟩ := Prod.mk.inj hseen
  obtain ⟨evs, es, hadded, hspoken, hanswers, hall, -⟩ :=
    Converses.searchList (h := h) original (variants T) s
  rw [← hresult] at hall
  change Conversation original h.tests _ (r.1.toOption.map _) (r.1.toOption.bind _) es at hall
  obtain ⟨n, hloaded, hwinner, hlength⟩ := hall.loaded
  refine ⟨(variants T).map (·.2), es, ?_, ?_, nodup_texts T, ?_, ?_, hall, hall.runsLoaded,
    hall.accepted_last, n, hloaded, ?_⟩
  · intro i a ha
    have hi : (variants T)[i]? = some (a, (a.variant T).text) :=
      getElem?_variants.mpr ⟨ha, rfl⟩
    exact ⟨_, build_of_answer hT ha, by rw [List.getElem?_map, hi]; rfl⟩
  · intro i hi
    have hnone : (variants T)[i]? = none := by
      cases hv : (variants T)[i]? with
      | none => rfl
      | some v =>
        rw [(getElem?_variants.mp hv).1] at hi
        cases hi
    rw [List.getElem?_map, hnone]
    rfl
  · exact hstate ▸ hanswers
  · rw [← spoken_filter_isPull]
    refine (congrArg spoken hevents).trans ?_
    rw [spoken_filter_isPull, hadded, spoken_append, hspoken]
  · intro report hreport
    rw [hreport] at hwinner hlength
    constructor
    · intro fix hfix
      exact hwinner fix.index (Option.mem_map_of_mem (·.index) hfix)
    · intro hne hnone
      apply hlength report.failing rfl hne
      change report.fix?.map (·.index) = none
      rw [hnone]
      rfl

end Detect

theorem run_conversation_nested :
    nested.hasHoles = false ∧ ∃ (texts : List String) (es : List Exchange),
      (∃ text, texts[3]? = some text) ∧ texts.Nodup ∧
      flakySuite.Answers {} es
        ((run (detect nested) nested.text flakySuite ⟨5⟩).run ⟨{}, #[]⟩).2.state ∧
      RunsLoaded false es := by
  obtain ⟨texts, es, htexts, -, hnodup, hanswers, -, -, hruns, -⟩ :=
    run_conversation (T := nested) nested.text flakySuite ⟨5⟩ rfl ⟨{}, #[]⟩
  have hj : 3 < spaceProduct (detect nested) := by decide +kernel
  obtain ⟨n, -, htext⟩ := htexts 3 _ ((answer_enumerate nested 3).trans (if_pos hj))
  exact ⟨rfl, texts, es, ⟨n.text, htext⟩, hnodup, hanswers, hruns⟩

end Mender.Search
