import Mender.Command.Repair

namespace Mender.Command

open Files Hotspot Suite

variable {α β : Type}

/-- From the console `c`, `x` gives a result and leaves a console that meet `Q`. -/
def Leads (c : Console) (x : Action α) (Q : Except Failure α → Console → Prop) : Prop :=
  Q (x.run.run c).1 (x.run.run c).2

theorem run_bind (x : Action α) (f : α → Action β) (c : Console) :
    (x >>= f).run.run c = match x.run.run c with
      | (.ok a, c') => (f a).run.run c'
      | (.error e, c') => (.error e, c') := by
  change ExceptT.bindCont f (x.run.run c).1 (x.run.run c).2 = _
  obtain ⟨r, c'⟩ := x.run.run c
  cases r <;> rfl

namespace Leads

variable {c : Console} {x : Action α} {Q R : Except Failure α → Console → Prop}

theorem mono (hx : Leads c x Q) (hQ : ∀ r c', Q r c' → R r c') : Leads c x R := hQ _ _ hx

theorem bind {f : α → Action β} {S : Except Failure β → Console → Prop} (hx : Leads c x Q)
    (hok : ∀ a c', Q (.ok a) c' → Leads c' (f a) S)
    (herror : ∀ e c', Q (.error e) c' → S (.error e) c') : Leads c (x >>= f) S := by
  rw [Leads] at hx
  rw [Leads, run_bind]
  generalize x.run.run c = result at hx ⊢
  obtain ⟨r, c'⟩ := result
  cases r with
  | ok a => exact hok a c' hx
  | error e => exact herror e c' hx

theorem files_bind {f : Disk → Action α} (hf : Leads c (f c.files) Q) :
    Leads c (Action.files >>= f) Q := hf

theorem setFiles_bind {files : Disk} {f : Unit → Action α}
    (hf : Leads { c with files } (f ()) Q) : Leads c (Action.setFiles files >>= f) Q := hf

theorem emit_bind {e : Emission} {f : Unit → Action α}
    (hf : Leads { c with emissions := c.emissions.push e } (f ()) Q) :
    Leads c (Action.emit e >>= f) Q := hf

theorem emits {γ : Type} (shown : γ → Emission) (xs : List γ) :
    Leads c (xs.forM fun x => Action.emit (shown x)) fun r c' =>
      r = .ok PUnit.unit ∧ c'.files = c.files := by
  induction xs generalizing c with
  | nil => exact ⟨rfl, rfl⟩
  | cons x xs ih => exact emit_bind ih

theorem told (r : Except Failure α × List Note) :
    Leads c (Action.told r) fun result c' => result = r.1 ∧ c'.files = c.files := by
  obtain ⟨result, notes⟩ := r
  apply (emits Emission.noted notes).bind
  · rintro ⟨⟩ c' ⟨-, hc⟩
    cases result with
    | ok a => exact ⟨rfl, hc⟩
    | error e => exact ⟨rfl, hc⟩
  · rintro e c' ⟨he, -⟩
    cases he

theorem releasing {h : CommandHarness} {body : Action α} {result : Except Failure α}
    {between : Disk} (hbody : Leads c body fun r c' => r = result ∧ c'.files = between) :
    Leads c (Action.releasing h body) fun r c' => r = result ∧
      c'.files = (h.release between).1 ∧ ∀ n ∈ (h.release between).2, .noted n ∈ c'.emissions := by
  obtain ⟨hresult, rfl⟩ := hbody
  refine ⟨hresult, rfl, fun n hn => ?_⟩
  apply Array.mem_append_right
  rw [List.mem_toArray]
  exact List.mem_map_of_mem hn

end Leads

def searched (host : Host) (t : Template) (h : CommandHarness) (lookahead : Nat) (files : Disk) :
    Except Failure Search.Report × Search.Session Disk :=
  (Search.run t h.original (h.harness host) ⟨lookahead⟩).run ⟨files, #[]⟩

namespace Leads

variable {host : Host} {color : Bool} {c : Console} {h : CommandHarness} {lookahead : Nat}

theorem search (json : Bool) (t : Template) :
    Leads c (search host color json t h lookahead) fun r c' =>
      r = (searched host t h lookahead c.files).1 ∧
        c'.files = (searched host t h lookahead c.files).2.state := by
  rw [Command.search, searched]
  apply files_bind
  generalize (Search.run t h.original (h.harness host) ⟨lookahead⟩).run ⟨c.files, #[]⟩ = found
  obtain ⟨result, session⟩ := found
  apply setFiles_bind
  apply (emits id _).bind
  · rintro ⟨⟩ c' ⟨-, hc⟩
    cases result with
    | ok report => exact ⟨rfl, hc⟩
    | error e => exact ⟨rfl, hc⟩
  · rintro e c' ⟨he, -⟩
    cases he

theorem searchProgram_of_error {fault : Syntax.Fault} (a : RepairArguments) (source : String)
    (hp : Syntax.parse host.grammar h.original = .error fault) :
    Leads c (searchProgram host color a source h lookahead) fun r c' =>
      r = .ok none ∧ c'.files = c.files := by
  rw [searchProgram, hp]
  exact emit_bind ⟨rfl, rfl⟩

theorem searchProgram_of_ok {tree : Syntax.Node} (a : RepairArguments) (source : String)
    (hp : Syntax.parse host.grammar h.original = .ok tree) :
    Leads c (searchProgram host color a source h lookahead) fun r c' =>
      r = (searched host (detect tree) h lookahead c.files).1.map some ∧
        c'.files = (searched host (detect tree) h lookahead c.files).2.state := by
  have hsearch {c' : Console} (hc' : c'.files = c.files) (json : Bool) :
      Leads c' (do return some (← Command.search host color json (detect tree) h lookahead))
        fun r c' => r = (searched host (detect tree) h lookahead c.files).1.map some ∧
          c'.files = (searched host (detect tree) h lookahead c.files).2.state := by
    rw [← hc']
    apply (search json (detect tree)).bind
    · rintro report c'' ⟨hreport, hfiles⟩
      rw [← hreport]
      exact ⟨rfl, hfiles⟩
    · rintro e c'' ⟨he, hfiles⟩
      rw [← he]
      exact ⟨rfl, hfiles⟩
  rw [searchProgram, hp]
  apply emit_bind
  cases a.json with
  | true =>
    apply hsearch
    rfl
  | false =>
    apply emit_bind
    apply hsearch
    rfl

end Leads

end Mender.Command
