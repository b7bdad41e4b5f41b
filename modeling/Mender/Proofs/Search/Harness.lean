import Mender.Search.Run

namespace Mender.Search

open Variant

variable {σ : Type}

namespace Harness

/-- The states that loads and runs lead to from `s₀`, each with the text that loaded last. -/
inductive Reached (h : Harness σ) (s₀ : σ) : Option String → σ → Prop
  | start : Reached h s₀ none s₀
  | load {last : Option String} {u : σ} (source : String) (hu : Reached h s₀ last u)
      (ok : (h.load source u).result.isOk = true) :
      Reached h s₀ (some source) (h.load source u).state
  | refused {last : Option String} {u : σ} (source : String) (hu : Reached h s₀ last u)
      (no : (h.load source u).result.isOk = false) : Reached h s₀ last (h.load source u).state
  | run {last : Option String} {u : σ} (test : String) (hu : Reached h s₀ last u) :
      Reached h s₀ last (h.run test u).state

/-- Whether a text loads depends on the text only, and whether a test passes, fails or breaks on
the test and the text that loaded last. -/
structure Steady (h : Harness σ) (s₀ : σ) : Prop where
  load : ∀ {last last' u u'} (source : String), Reached h s₀ last u → Reached h s₀ last' u' →
    (h.load source u).result.isOk = (h.load source u').result.isOk
  run : ∀ {text u u'} (test : String), Reached h s₀ (some text) u → Reached h s₀ (some text) u' →
    (h.run test u).result.toOption = (h.run test u').result.toOption

def loads (h : Harness σ) (s₀ : σ) (text : String) : Bool := (h.load text s₀).result.isOk

def passes (h : Harness σ) (s₀ : σ) (text test : String) : Bool :=
  (h.run test (h.load text s₀).state).result.toOption.getD false

def accepts (h : Harness σ) (s₀ : σ) (text : String) : Bool :=
  h.loads s₀ text && h.tests.all (h.passes s₀ text)

def Fails (h : Harness σ) (s₀ : σ) (text : String) : Prop :=
  h.loads s₀ text = true ∧ ∃ test ∈ h.tests, h.passes s₀ text test = false

variable {h : Harness σ} {s₀ : σ}

theorem fails_iff {text : String} : h.Fails s₀ text ↔
    h.loads s₀ text = true ∧ h.tests.all (h.passes s₀ text) = false := by
  rw [Fails, List.all_eq_false]
  simp only [Bool.not_eq_true]

theorem Steady.loads_eq (hs : h.Steady s₀) {last : Option String} {u : σ}
    (hu : Reached h s₀ last u) (text : String) :
    (h.load text u).result.isOk = h.loads s₀ text :=
  hs.load text hu .start

theorem Steady.loads_of_reached (hs : h.Steady s₀) {last : Option String} {text : String} {u : σ}
    (hu : Reached h s₀ last u) (hl : last = some text) : h.loads s₀ text = true := by
  induction hu with
  | start => cases hl
  | load source hu ok _ =>
    obtain rfl := Option.some.inj hl
    rw [← hs.loads_eq hu, ok]
  | refused source _ _ ih => exact ih hl
  | run test _ ih => exact ih hl

theorem Steady.passes_eq (hs : h.Steady s₀) {text : String} {u : σ}
    (hu : Reached h s₀ (some text) u) (test : String) :
    (h.run test u).result.toOption.getD false = h.passes s₀ text test := by
  have hfresh : Reached h s₀ (some text) (h.load text s₀).state :=
    .load text .start (hs.loads_of_reached hu rfl)
  rw [passes, hs.run test hu hfresh]

end Harness

/-- With `last` loaded, `x` gives an answer and leaves a loaded text that meet `Q`. -/
def Ensures {α : Type} (h : Harness σ) (s₀ : σ) (last : Option String) (x : Act σ α)
    (Q : α → Option String → Prop) : Prop :=
  ∀ s : Session σ, h.Reached s₀ last s.state →
    ∃ last', h.Reached s₀ last' (x s).2.state ∧ Q (x s).1 last'

namespace Ensures

variable {α β : Type} {h : Harness σ} {s₀ : σ} {last : Option String} {x : Act σ α}
  {Q R : α → Option String → Prop}

theorem mono (hx : Ensures h s₀ last x Q) (hQ : ∀ a last', Q a last' → R a last') :
    Ensures h s₀ last x R := by
  intro s hs
  obtain ⟨last', hl, hq⟩ := hx s hs
  exact ⟨last', hl, hQ _ _ hq⟩

theorem pure {a : α} (hQ : Q a last) : Ensures h s₀ last (pure a) Q := fun _ hs => ⟨last, hs, hQ⟩

theorem bind {f : α → Act σ β} {S : β → Option String → Prop} (hx : Ensures h s₀ last x Q)
    (hf : ∀ a last', Q a last' → Ensures h s₀ last' (f a) S) : Ensures h s₀ last (x >>= f) S := by
  intro s hs
  obtain ⟨last', hl, hq⟩ := hx s hs
  exact hf _ last' hq _ hl

theorem emit_bind {e : Event} {f : Unit → Act σ β} {S : β → Option String → Prop}
    (hf : Ensures h s₀ last (f ()) S) : Ensures h s₀ last (Act.emit e >>= f) S :=
  fun s hs => hf ⟨s.state, s.events.push e⟩ hs

end Ensures

namespace Act

variable {h : Harness σ} {s₀ : σ} {last : Option String} {text : String}

theorem load_ensures (hs : h.Steady s₀) (source : String) :
    Ensures h s₀ last (load h source) fun r last' =>
      r.isOk = h.loads s₀ source ∧ (h.loads s₀ source = true → last' = some source) := by
  apply Ensures.emit_bind
  intro s hl
  have hr : (h.load source s.state).result.isOk = h.loads s₀ source := hs.loads_eq hl source
  cases hok : h.loads s₀ source with
  | true => exact ⟨some source, .load source hl (hr.trans hok), hr.trans hok, fun _ => rfl⟩
  | false => exact ⟨last, .refused source hl (hr.trans hok), hr.trans hok, fun hc => by cases hc⟩

theorem run_ensures (hs : h.Steady s₀) (test : String) :
    Ensures h s₀ (some text) (reply (h.run test)) fun r last' =>
      r.toOption.getD false = h.passes s₀ text test ∧ last' = some text :=
  fun _ hl => ⟨some text, .run test hl, hs.passes_eq hl test, rfl⟩

theorem passes_ensures (hs : h.Steady s₀) (test : String) :
    Ensures h s₀ (some text) (passes h test) fun b last' =>
      b = h.passes s₀ text test ∧ last' = some text := by
  apply Ensures.emit_bind
  apply (run_ensures hs test).bind
  rintro r _ ⟨hr, rfl⟩
  cases r with
  | ok passed => exact .pure ⟨hr, rfl⟩
  | error e => exact .emit_bind (.pure ⟨hr, rfl⟩)

theorem allPass_ensures (hs : h.Steady s₀) (tests : List String) :
    Ensures h s₀ (some text) (allPass h tests) fun b last' =>
      b = tests.all (h.passes s₀ text) ∧ last' = some text := by
  induction tests with
  | nil => exact .pure ⟨rfl, rfl⟩
  | cons test tests ih =>
    apply (passes_ensures hs test).bind
    rintro b _ ⟨hb, rfl⟩
    rw [List.all_cons, ← hb]
    cases b with
    | true => exact ih
    | false => exact .pure ⟨rfl, rfl⟩

theorem failures_ensures (hs : h.Steady s₀) (tests : List String) :
    Ensures h s₀ (some text) (failures h tests) fun failing last' =>
      failing = tests.filter (fun test => !h.passes s₀ text test) ∧ last' = some text := by
  induction tests with
  | nil => exact .pure ⟨rfl, rfl⟩
  | cons test tests ih =>
    apply (passes_ensures hs test).bind
    rintro b _ ⟨hb, rfl⟩
    apply ih.bind
    rintro failing _ ⟨rfl, rfl⟩
    rw [List.filter_cons, ← hb]
    apply Ensures.pure
    cases b <;> exact ⟨rfl, rfl⟩

end Act

end Mender.Search
