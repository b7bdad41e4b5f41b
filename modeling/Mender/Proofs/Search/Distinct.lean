import Mender.Proofs.Search.Conversation

namespace Mender.Search

open Syntax Hotspot Variant

variable {σ : Type}

theorem searchList_emits (h : Harness σ) (original : String)
    (variants : List (Assignment × String)) (s : Session σ) :
    ∃ evs, (searchList original h variants s).2.events.toList = s.events.toList ++ evs ∧
      ∃ judged, loaded evs = original :: judged ∧ judged <+: variants.map (·.2) ∧
        ∀ report, (searchList original h variants s).1 = .ok report →
          report.stats.judged = judged.length ∧
            (report.outcome = .exhausted → judged = variants.map (·.2)) := by
  obtain ⟨evs, es, hadded, hspoken, -, hall, hreport⟩ :=
    Converses.searchList (h := h) original variants s
  obtain ⟨n, hloaded, -, hlength⟩ := hall.loaded
  have hevs : loaded evs = original :: (variants.map (·.2)).take n := by
    rw [← loaded_spoken, hspoken, hloaded]
  refine ⟨evs, hadded, _, hevs, List.take_prefix n _, fun report hok => ?_⟩
  obtain ⟨hcount, hfails⟩ := hreport report hok
  rw [hloaded] at hcount
  refine ⟨Nat.succ.inj hcount, fun hout => ?_⟩
  rw [hok] at hlength
  have hfix : report.fix? = none := by rw [Report.fix?, hout]
  rw [hlength report.failing rfl (hfails hout) (congrArg (Option.map _) hfix), List.take_length]

theorem loaded_filter_isPull (es : List Event) :
    loaded (es.filter fun e => !e.isPull) = loaded es :=
  loaded_filter (fun _ => rfl) es

section Detect

variable {T : Node}

theorem mem_texts {a : Assignment} (ha : a.Fits (detect T)) :
    (a.variant T).text ∈ (variants T).map (·.2) := by
  obtain ⟨j, hj, hagree⟩ := exists_variantAt ha
  rw [← Assignment.variant_congr hagree]
  exact List.mem_map.mpr ⟨_, List.mem_map.mpr ⟨j, List.mem_range.mpr hj, rfl⟩, rfl⟩

/-- Assignments that give one text choose the same everywhere, so a search judges no text twice, and
one that is exhausted has judged the text of every assignment once. -/
theorem run_distinct (hT : T.hasHoles = false) :
    let t := detect T
    (∀ a b : Assignment, a.Fits t → b.Fits t → ∃ m n, build t a = .ok m ∧ build t b = .ok n ∧
      (m.text = n.text → ∀ id < t.hotspots.length, a.choice? id = b.choice? id)) ∧
    ∀ (σ : Type) (h : Harness σ) (original : String) (options : Options) (s : Session σ),
      let r := (run t original h options).run s
      ∃ judged, loaded r.2.events.toList = loaded s.events.toList ++ original :: judged ∧
        judged.Nodup ∧
        ∀ report, r.1 = .ok report → report.stats.judged = judged.length ∧
          (report.outcome = .exhausted →
            ∀ a : Assignment, a.Fits t → ∃ n, build t a = .ok n ∧ n.text ∈ judged) := by
  intro t
  constructor
  · intro a b ha hb
    refine ⟨_, _, build_eq_variant hT ha, build_eq_variant hT hb, ?_⟩
    exact fun htext id => choice_eq_of_text ha hb htext
  · intro σ h original options s r
    obtain ⟨hresult, hseen⟩ := run_alike hT original h options s s rfl
    obtain ⟨es, hes, judged, hloaded, hsome, hreport⟩ :=
      searchList_emits h original (variants T) s
    obtain ⟨-, hevents⟩ := Prod.mk.inj hseen
    have htrace : loaded r.2.events.toList = loaded s.events.toList ++ original :: judged := by
      rw [← loaded_filter_isPull]
      refine (congrArg loaded hevents).trans ?_
      rw [loaded_filter_isPull, hes, loaded_append, hloaded]
    refine ⟨judged, htrace, hsome.sublist.nodup (nodup_texts T), ?_⟩
    intro report hok
    obtain ⟨hcount, hall⟩ := hreport report (hresult.symm.trans hok)
    refine ⟨hcount, fun hout a ha => ⟨_, build_eq_variant hT ha, ?_⟩⟩
    rw [hall hout]
    exact mem_texts ha

end Detect

theorem run_distinct_nested :
    nested.hasHoles = false ∧
      (⟨[some 1, some 0, some 0]⟩ : Assignment).Fits (detect nested) ∧
      (⟨[some 0, some 0, some 1]⟩ : Assignment).Fits (detect nested) ∧
      (∃ m n, build (detect nested) ⟨[some 1, some 0, some 0]⟩ = .ok m ∧
        build (detect nested) ⟨[some 0, some 0, some 1]⟩ = .ok n ∧ m.text ≠ n.text) ∧
      ∃ judged, loaded ((run (detect nested) nested.text flakySuite {}).run
          ⟨{}, #[]⟩).2.events.toList = nested.text :: judged ∧ judged.Nodup := by
  have ha : (⟨[some 1, some 0, some 0]⟩ : Assignment).Fits (detect nested) := by decide +kernel
  have hb : (⟨[some 0, some 0, some 1]⟩ : Assignment).Fits (detect nested) := by decide +kernel
  obtain ⟨htexts, hsearch⟩ := run_distinct (T := nested) rfl
  obtain ⟨m, n, hm, hn, hsame⟩ := htexts _ _ ha hb
  obtain ⟨judged, hloaded, hnodup, -⟩ := hsearch Scripted flakySuite nested.text {} ⟨{}, #[]⟩
  refine ⟨rfl, ha, hb, ⟨m, n, hm, hn, fun htext => ?_⟩, judged, hloaded, hnodup⟩
  have hchoice := hsame htext 0 (by decide +kernel)
  cases hchoice

end Mender.Search
