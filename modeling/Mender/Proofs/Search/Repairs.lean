import Mender.Proofs.Search.Outcome
import Mender.Proofs.Variant.Mutation
import Mender.Proofs.Search.Scripted

namespace Mender.Search

open Syntax Hotspot Variant

def variants (T : Node) : List (Assignment × String) :=
  (List.range (spaceProduct (detect T))).map fun j =>
    (variantAt T j, ((variantAt T j).variant T).text)

section Variants

variable {T : Node}

theorem toList_map_enumerate :
    (Candidates.counted (enumerate (detect T))).toList.map (fun a => (a, (a.variant T).text)) =
      variants T := by
  rw [Candidates.toList_enumerate, List.map_map]
  rfl

theorem getElem?_variants {j : Nat} {v : Assignment × String} :
    (variants T)[j]? = some v ↔
      (enumerate (detect T)).answer j = some v.1 ∧ v.2 = (v.1.variant T).text := by
  obtain ⟨a, source⟩ := v
  rw [answer_eq_some_iff, variants, List.getElem?_map, Option.map_eq_some_iff]
  constructor
  · rintro ⟨i, hi, he⟩
    obtain ⟨hlt, rfl⟩ := List.getElem?_eq_some_iff.mp hi
    rw [List.length_range] at hlt
    rw [List.getElem_range] at he
    obtain ⟨rfl, rfl⟩ := Prod.mk.inj he
    exact ⟨⟨hlt, rfl⟩, rfl⟩
  · rintro ⟨⟨hlt, rfl⟩, hsource⟩
    exact ⟨j, List.getElem?_range hlt, Prod.ext rfl hsource.symm⟩

theorem text_build_of_mem (hT : T.hasHoles = false) :
    ∀ a ∈ (Candidates.counted (enumerate (detect T))).toList,
      (build (detect T) a).map Node.text = .ok (a.variant T).text := by
  rw [Candidates.toList_enumerate]
  intro a ha
  obtain ⟨j, hj, rfl⟩ := List.mem_map.mp ha
  rw [build_eq_variant hT (fits_variantAt (List.mem_range.mp hj))]
  rfl

theorem build_of_answer (hT : T.hasHoles = false) {j : Nat} {a : Assignment}
    (h : (enumerate (detect T)).answer j = some a) :
    build (detect T) a = .ok (a.variant T) := by
  obtain ⟨hj, rfl⟩ := answer_eq_some_iff.mp h
  exact build_eq_variant hT (fits_variantAt hj)

theorem pick_variants_eq_none_iff {accepts : String → Bool} :
    pick accepts 0 (variants T) = none ↔
      ∀ a : Assignment, a.Fits (detect T) → accepts (a.variant T).text = false := by
  rw [pick_eq_none_iff]
  constructor
  · intro h a ha
    obtain ⟨j, hj, hagree⟩ := exists_variantAt ha
    have hmem : (variantAt T j, ((variantAt T j).variant T).text) ∈ variants T :=
      List.mem_map.mpr ⟨j, List.mem_range.mpr hj, rfl⟩
    rw [← Assignment.variant_congr hagree]
    exact h _ hmem
  · intro h v hv
    obtain ⟨j, hj, rfl⟩ := List.mem_map.mp hv
    exact h _ (fits_variantAt (List.mem_range.mp hj))

end Variants

section Ending

variable {σ : Type} {h : Harness σ} {s₀ : σ} {original : String}
  {vs : List (Assignment × String)}

theorem ending?_eq_none_iff : ending? h s₀ original vs = none ↔ h.loads s₀ original = false := by
  rw [ending?]
  cases h.loads s₀ original <;> cases h.tests.all (h.passes s₀ original) <;> simp

theorem ending?_eq_noFailures_iff :
    ending? h s₀ original vs = some .noFailures ↔ h.accepts s₀ original = true := by
  rw [ending?, Harness.accepts]
  cases h.loads s₀ original <;> cases h.tests.all (h.passes s₀ original) <;>
    cases pick (h.accepts s₀) 0 vs <;> simp

theorem ending?_eq_accepted_iff {fix : Fix} : ending? h s₀ original vs = some (.accepted fix) ↔
    h.Fails s₀ original ∧ pick (h.accepts s₀) 0 vs = some fix := by
  rw [ending?, Harness.fails_iff]
  cases h.loads s₀ original <;> cases h.tests.all (h.passes s₀ original) <;>
    cases pick (h.accepts s₀) 0 vs <;> simp

theorem ending?_eq_exhausted_iff : ending? h s₀ original vs = some .exhausted ↔
    h.Fails s₀ original ∧ pick (h.accepts s₀) 0 vs = none := by
  rw [ending?, Harness.fails_iff]
  cases h.loads s₀ original <;> cases h.tests.all (h.passes s₀ original) <;>
    cases pick (h.accepts s₀) 0 vs <;> simp

end Ending

theorem toOption_eq_none_iff {ε α : Type} {x : Except ε α} :
    x.toOption = none ↔ ∃ e, x = .error e := by
  cases x <;> simp [Except.toOption]

theorem toOption_eq_some_iff {ε α : Type} {x : Except ε α} {a : α} :
    x.toOption = some a ↔ x = .ok a := by
  cases x <;> simp [Except.toOption]

section Run

variable {σ : Type} {T : Node} {h : Harness σ} {s : Session σ}

theorem run_alike (hT : T.hasHoles = false) (original : String) (h : Harness σ)
    (options : Options) :
    Alike (run (detect T) original h options) (searchList original h (variants T)) := by
  have halike := runAssignments_alike (h := h) (text_build_of_mem hT) original options
  rwa [toList_map_enumerate] at halike

theorem ending?_run (original : String) (options : Options) (hT : T.hasHoles = false)
    (hs : h.Steady s.state) :
    (((run (detect T) original h options).run s).1.map Report.outcome).toOption =
      ending? h s.state original (variants T) := by
  obtain ⟨hresult, -⟩ := run_alike hT original h options s s rfl
  obtain ⟨_, -, he⟩ := searchList_ensures hs original (variants T) s .start
  rwa [← hresult] at he

theorem exists_pick_variants_iff {accepts : String → Bool} :
    (∃ fix, pick accepts 0 (variants T) = some fix) ↔
      ∃ a : Assignment, a.Fits (detect T) ∧ accepts (a.variant T).text = true := by
  rw [← Option.ne_none_iff_exists', ne_eq, pick_variants_eq_none_iff, not_forall]
  refine exists_congr fun a => ?_
  rw [Classical.not_imp, Bool.not_eq_false]

theorem exists_build_iff (hT : T.hasHoles = false) {a : Assignment} (ha : a.Fits (detect T))
    {P : Node → Prop} : (∃ n, build (detect T) a = .ok n ∧ P n) ↔ P (a.variant T) := by
  rw [build_eq_variant hT ha]
  constructor
  · rintro ⟨n, hn, hp⟩
    rwa [Except.ok.inj hn]
  · exact fun hp => ⟨_, rfl, hp⟩

theorem fix_of_pick (hT : T.hasHoles = false) {accepts : String → Bool} {fix : Fix}
    (hp : pick accepts 0 (variants T) = some fix) :
    1 ≤ fix.index ∧ (enumerate (detect T)).answer (fix.index - 1) = some fix.assignment ∧
      (∃ n, build (detect T) fix.assignment = .ok n ∧ n.text = fix.source) ∧
      accepts fix.source = true ∧
      ∀ j < fix.index - 1, ∃ a n, (enumerate (detect T)).answer j = some a ∧
        build (detect T) a = .ok n ∧ accepts n.text = false := by
  obtain ⟨i, hi, hv, hsource, hbefore⟩ := exists_of_pick hp
  obtain ⟨hanswer, htext⟩ := getElem?_variants.mp hv
  have hpos : fix.index - 1 = i := by omega
  rw [hpos]
  refine ⟨by omega, hanswer, ⟨_, build_of_answer hT hanswer, htext.symm⟩, hsource, ?_⟩
  intro j hj
  have hlt : j < (variants T).length := by
    have := (List.getElem?_eq_some_iff.mp hv).1
    omega
  have hvj := List.getElem?_eq_getElem hlt
  obtain ⟨hj', htext'⟩ := getElem?_variants.mp hvj
  exact ⟨_, _, hj', build_of_answer hT hj', htext' ▸ hbefore j hj _ hvj⟩

/-- A search on a steady harness fails only if the original does not load, ends at once if all
tests pass, and otherwise gives the first repair of the enumeration, or none if there is none. -/
theorem run_detect (original : String) (options : Options) (hT : T.hasHoles = false)
    (hs : h.Steady s.state) :
    let t := detect T
    let ends := ((run t original h options).run s).1.map Report.outcome
    ((∃ e, ends = .error e) ↔ h.loads s.state original = false) ∧
    (ends = .ok .noFailures ↔ h.accepts s.state original = true) ∧
    ((∃ fix, ends = .ok (.accepted fix)) ↔ h.Fails s.state original ∧
      ∃ a : Assignment, a.Fits t ∧ ∃ n, build t a = .ok n ∧ h.accepts s.state n.text = true) ∧
    (ends = .ok .exhausted ↔ h.Fails s.state original ∧
      ∀ a : Assignment, a.Fits t → ∃ n, build t a = .ok n ∧ h.accepts s.state n.text = false) ∧
    ∀ fix, ends = .ok (.accepted fix) →
      1 ≤ fix.index ∧ (enumerate t).answer (fix.index - 1) = some fix.assignment ∧
      (∃ n, build t fix.assignment = .ok n ∧ n.text = fix.source) ∧
      h.accepts s.state fix.source = true ∧ fix.source ≠ original ∧
      ∀ j < fix.index - 1, ∃ a n, (enumerate t).answer j = some a ∧ build t a = .ok n ∧
        h.accepts s.state n.text = false := by
  intro t ends
  have hends : ends.toOption = ending? h s.state original (variants T) :=
    ending?_run original options hT hs
  have hok (o : Outcome) : ends = .ok o ↔ ending? h s.state original (variants T) = some o := by
    rw [← hends, toOption_eq_some_iff]
  refine ⟨?_, ?_, ?_, ?_, ?_⟩
  · rw [← toOption_eq_none_iff, hends, ending?_eq_none_iff]
  · rw [hok, ending?_eq_noFailures_iff]
  · simp only [hok, ending?_eq_accepted_iff, exists_and_left]
    rw [exists_pick_variants_iff]
    refine and_congr_right fun _ => exists_congr fun a => and_congr_right fun ha => ?_
    rw [exists_build_iff hT ha]
  · rw [hok, ending?_eq_exhausted_iff, pick_variants_eq_none_iff]
    refine and_congr_right fun _ => forall₂_congr fun a ha => ?_
    rw [exists_build_iff hT ha]
  · intro fix hfix
    rw [hok, ending?_eq_accepted_iff] at hfix
    obtain ⟨hfails, hpick⟩ := hfix
    obtain ⟨hindex, hanswer, hbuild, hsource, hbefore⟩ := fix_of_pick hT hpick
    refine ⟨hindex, hanswer, hbuild, hsource, ?_, hbefore⟩
    rintro rfl
    rw [Harness.fails_iff] at hfails
    rw [Harness.accepts, hfails.2, Bool.and_false] at hsource
    cases hsource

end Run

def boundSuite : Harness Scripted :=
  Scripted.harness [("bound", .contains "x>=3"), ("kept", .contains "select")] (.starts "(!")

theorem run_detect_nested :
    nested.hasHoles = false ∧ boundSuite.Steady {} ∧
      ∃ fix, ((run (detect nested) nested.text boundSuite {}).run ⟨{}, #[]⟩).1.map Report.outcome =
        .ok (.accepted fix) ∧ boundSuite.accepts {} fix.source = true ∧
          fix.source ≠ nested.text := by
  have hs : boundSuite.Steady {} := Scripted.steady rfl (by decide) {}
  obtain ⟨-, -, haccepted, -, hfix⟩ := run_detect (T := nested) (h := boundSuite)
    (s := ⟨{}, #[]⟩) nested.text {} rfl hs
  obtain ⟨fix, h⟩ := haccepted.mpr ⟨⟨by decide +kernel, by decide +kernel⟩,
    ⟨[some 1, some 0, some 0]⟩, by decide +kernel, _, rfl, by decide +kernel⟩
  obtain ⟨-, -, -, hsource, hne, -⟩ := hfix fix h
  exact ⟨rfl, hs, fix, h, hsource, hne⟩

end Mender.Search
