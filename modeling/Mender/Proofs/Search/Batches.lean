import Mender.Search.Run
import Mender.Proofs.Search.Candidates

/-!
Batches leave no trace. Whatever their size, a search makes the calls and gives the verdicts and the
result of one that judges a list of variants from its first to its last.
-/

namespace Mender.Search

open Syntax Hotspot Variant

variable {σ α β : Type}

def Event.isPull : Event → Bool
  | .pulled _ => true
  | _ => false

/-- What a session shows of itself: all but the times at which assignments are made. -/
def Session.seen (s : Session σ) : σ × List Event :=
  (s.state, s.events.toList.filter fun e => !e.isPull)

def Alike (x y : Act σ α) : Prop :=
  ∀ s s' : Session σ, s.seen = s'.seen → (x s).1 = (y s').1 ∧ (x s).2.seen = (y s').2.seen

namespace Alike

theorem symm {x y : Act σ α} (h : Alike x y) : Alike y x := by
  intro s s' hs
  obtain ⟨ha, hseen⟩ := h s' s hs.symm
  exact ⟨ha.symm, hseen.symm⟩

theorem trans {x y z : Act σ α} (hxy : Alike x y) (hyz : Alike y z) : Alike x z := by
  intro s s' hs
  obtain ⟨ha, hseen⟩ := hxy s s' hs
  obtain ⟨hb, hseen'⟩ := hyz s' s' rfl
  exact ⟨ha.trans hb, hseen.trans hseen'⟩

theorem pure (a : α) : Alike (pure a : Act σ α) (pure a) := fun _ _ hs => ⟨rfl, hs⟩

theorem bind {x y : Act σ α} {f g : α → Act σ β} (hx : Alike x y) (hf : ∀ a, Alike (f a) (g a)) :
    Alike (x >>= f) (y >>= g) := by
  intro s s' hs
  obtain ⟨ha, hseen⟩ := hx s s' hs
  change (f (x s).1 (x s).2).1 = (g (y s').1 (y s').2).1 ∧
    (f (x s).1 (x s).2).2.seen = (g (y s').1 (y s').2).2.seen
  rw [← ha]
  exact hf (x s).1 (x s).2 (y s').2 hseen

theorem emit (e : Event) : Alike (Act.emit e : Act σ Unit) (Act.emit e) := by
  intro s s' hs
  obtain ⟨hstate, hevents⟩ := Prod.mk.inj hs
  refine ⟨rfl, Prod.ext hstate ?_⟩
  change (s.events.push e).toList.filter _ = (s'.events.push e).toList.filter _
  simp only [Array.toList_push, List.filter_append, hevents]

theorem reply (action : σ → Reply σ α) : Alike (Act.reply action) (Act.reply action) := by
  intro s s' hs
  obtain ⟨hstate, hevents⟩ := Prod.mk.inj hs
  have hreply : action s.state = action s'.state := congrArg action hstate
  refine ⟨congrArg Reply.result hreply, Prod.ext (congrArg Reply.state hreply) ?_⟩
  change (s.events ++ ((action s.state).notes.map Event.noted).toArray).toList.filter _ =
    (s'.events ++ ((action s'.state).notes.map Event.noted).toArray).toList.filter _
  simp only [Array.toList_append, List.filter_append, hevents, hreply]

theorem pull_bind {a : Assignment} {f : Unit → Act σ α} {y : Act σ α} (hf : Alike (f ()) y) :
    Alike (Act.emit (.pulled a) >>= f) y := by
  intro s s' hs
  apply hf
  rw [← hs]
  refine Prod.ext rfl ?_
  change (s.events.push (.pulled a)).toList.filter _ = _
  simp [Session.seen, Event.isPull]

theorem pulls_bind {as : List Assignment} {f : PUnit → Act σ α} {y : Act σ α}
    (hf : Alike (f ()) y) : Alike ((as.forM fun a => Act.emit (.pulled a)) >>= f) y := by
  induction as with
  | nil => exact hf
  | cons a as ih => exact pull_bind (f := fun _ => (as.forM fun a => Act.emit (.pulled a)) >>= f) ih

variable (h : Harness σ)

theorem load (source : String) : Alike (Act.load h source) (Act.load h source) :=
  (emit _).bind fun _ => reply _

theorem passes (test : String) : Alike (Act.passes h test) (Act.passes h test) := by
  apply (emit _).bind
  intro _
  apply (reply _).bind
  intro r
  cases r with
  | ok passed => exact pure _
  | error e => exact (emit _).bind fun _ => pure _

theorem allPass (tests : List String) : Alike (Act.allPass h tests) (Act.allPass h tests) := by
  induction tests with
  | nil => exact pure _
  | cons test tests ih =>
    apply (passes h test).bind
    intro passed
    cases passed with
    | true => exact ih
    | false => exact pure _

theorem failures (tests : List String) : Alike (Act.failures h tests) (Act.failures h tests) := by
  induction tests with
  | nil => exact pure _
  | cons test tests ih =>
    apply (passes h test).bind
    intro passed
    exact ih.bind fun _ => pure _

theorem failingTests (original : String) :
    Alike (failingTests h original) (failingTests h original) := by
  apply (load h original).bind
  intro r
  cases r with
  | error e => exact pure _
  | ok _ => exact (failures h h.tests).bind fun _ => pure _

theorem judge (failing : List String) (source : String) :
    Alike (judge h failing source) (judge h failing source) := by
  apply (load h source).bind
  intro r
  cases r with
  | error e => exact (emit _).bind fun _ => pure _
  | ok _ =>
    apply (allPass h failing).bind
    intro passed
    cases passed with
    | false => exact pure _
    | true =>
      apply (allPass h h.tests).bind
      intro passed
      cases passed <;> exact pure _

theorem judgeBatch (failing : List String) (index : Nat) (stats : Stats)
    (variants : List (Assignment × String)) :
    Alike (judgeBatch h failing index stats variants)
      (judgeBatch h failing index stats variants) := by
  induction variants generalizing index stats with
  | nil => exact pure _
  | cons v variants ih =>
    apply (judge h failing v.2).bind
    intro verdict
    apply (emit _).bind
    intro _
    apply (emit _).bind
    intro _
    by_cases hv : verdict = .accepted
    · rw [if_pos hv]
      exact pure _
    · rw [if_neg hv]
      exact ih (index + 1) (stats.record verdict)

end Alike

section Batches

theorem buildAll_eq_map {t : Template} {text : Assignment → String} {as : List Assignment}
    (h : ∀ a ∈ as, (build t a).map Node.text = .ok (text a)) :
    buildAll t as = .ok (as.map fun a => (a, text a)) := by
  induction as with
  | nil => rfl
  | cons a as ih =>
    rw [List.forall_mem_cons] at h
    obtain ⟨ha, has⟩ := h
    rw [buildAll, ih has]
    cases hb : build t a with
    | error e => rw [hb] at ha; cases ha
    | ok n =>
      rw [hb] at ha
      rw [List.map_cons, ← Except.ok.inj ha]
      rfl

variable {h : Harness σ} {failing : List String}

theorem judgeBatch_append (index : Nat) (stats : Stats)
    (variants rest : List (Assignment × String)) :
    judgeBatch h failing index stats (variants ++ rest) = (do
      match ← judgeBatch h failing index stats variants with
      | (index', stats', some fix) => return (index', stats', some fix)
      | (index', stats', none) => judgeBatch h failing index' stats' rest) := by
  induction variants generalizing index stats with
  | nil => simp [judgeBatch]
  | cons v variants ih =>
    obtain ⟨a, source⟩ := v
    simp only [List.cons_append, judgeBatch, bind_assoc]
    congr 1
    funext verdict
    congr 1
    funext _
    congr 1
    funext _
    by_cases hv : verdict = .accepted
    · simp [hv]
    · simp only [if_neg hv, ih]

theorem judgeAll_bind_alike {t : Template} {text : Assignment → String} {window : Nat}
    (hw : 0 < window) (index : Nat) (stats : Stats) {supply : Candidates}
    (hb : ∀ a ∈ supply.toList, (build t a).map Node.text = .ok (text a))
    {f : Except Failure (Nat × Stats × Option Fix) → Act σ β}
    {g : Nat × Stats × Option Fix → Act σ β} (hf : ∀ r, Alike (f (.ok r)) (g r)) :
    Alike (judgeAll t h failing window index stats supply >>= f)
      (judgeBatch h failing index stats (supply.toList.map fun a => (a, text a)) >>= g) := by
  induction hn : supply.left using Nat.strong_induction_on generalizing index stats supply with
  | h left ih =>
    have hsplit := Candidates.toList_take window supply
    rw [judgeAll]
    split
    · next supply' htake =>
      have hnil : supply.toList = [] := Candidates.toList_of_take_nil hw (by rw [htake])
      rw [hnil]
      exact hf (index, stats, none)
    · next a as supply' htake =>
      have hlt : supply'.left < left := hn ▸ Candidates.left_lt_of_take htake
      rw [htake] at hsplit
      rw [hsplit, List.forall_mem_append] at hb
      rw [bind_assoc]
      apply Alike.pulls_bind
      rw [buildAll_eq_map hb.1, hsplit, List.map_append, judgeBatch_append]
      simp only [bind_assoc]
      apply (Alike.judgeBatch h failing index stats _).bind
      rintro ⟨index', stats', fix?⟩
      cases fix? with
      | some fix => exact hf (index', stats', some fix)
      | none => exact ih _ hlt index' stats' hb.2 rfl

def searchList (original : String) (h : Harness σ) (variants : List (Assignment × String)) :
    Act σ (Except Failure Report) := do
  match ← failingTests h original with
  | .error e => return .error e
  | .ok [] =>
    Act.emit (.noted .nothingToRepair)
    return .ok ⟨.noFailures, [], {}⟩
  | .ok failing =>
    Act.emit (.noted (.failing failing))
    Act.emit .opened
    match ← judgeBatch h failing 0 {} variants with
    | (_, stats, some fix) => return .ok ⟨.accepted fix, failing, stats⟩
    | (index, stats, none) =>
      Act.emit (.noted (.exhausted index))
      return .ok ⟨.exhausted, failing, stats⟩

theorem runAssignments_alike {t : Template} {text : Assignment → String} {supply : Candidates}
    (hb : ∀ a ∈ supply.toList, (build t a).map Node.text = .ok (text a)) (original : String)
    (options : Options) :
    Alike (runAssignments t original h options supply)
      (searchList original h (supply.toList.map fun a => (a, text a))) := by
  apply (Alike.failingTests h original).bind
  intro r
  cases r with
  | error e => exact Alike.pure _
  | ok failing =>
    cases failing with
    | nil => exact (Alike.emit _).bind fun _ => Alike.pure _
    | cons test tests =>
      apply (Alike.emit _).bind
      intro _
      apply (Alike.emit _).bind
      intro _
      have hwindow : 0 < max options.lookahead 1 := by omega
      apply judgeAll_bind_alike hwindow 0 {} hb
      rintro ⟨index, stats, fix?⟩
      cases fix? with
      | some fix => exact Alike.pure _
      | none => exact (Alike.emit _).bind fun _ => Alike.pure _

end Batches

end Mender.Search
