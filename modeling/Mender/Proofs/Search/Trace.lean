import Mender.Search.Run

namespace Mender.Search

def Event.source? : Event → Option String
  | .load source => some source
  | _ => none

def loaded (es : List Event) : List String := es.filterMap Event.source?

@[simp] theorem loaded_nil : loaded [] = [] := rfl

@[simp] theorem loaded_append (es es' : List Event) :
    loaded (es ++ es') = loaded es ++ loaded es' := List.filterMap_append

@[simp] theorem loaded_load (source : String) (es : List Event) :
    loaded (.load source :: es) = source :: loaded es := rfl

@[simp] theorem loaded_run (test : String) (es : List Event) :
    loaded (.run test :: es) = loaded es := rfl

@[simp] theorem loaded_judged (index : Nat) (verdict : Verdict) (es : List Event) :
    loaded (.judged index verdict :: es) = loaded es := rfl

theorem loaded_filter {p : Event → Bool} (hp : ∀ source, p (.load source) = true)
    (es : List Event) : loaded (es.filter p) = loaded es := by
  rw [loaded, loaded, List.filterMap_filter]
  congr
  funext e
  cases e with
  | load source => rw [if_pos (hp source)]
  | run | judged | opened | pulled | noted => exact ite_self none

def Event.isExchange : Event → Bool
  | .load _ | .run _ | .judged _ _ => true
  | .opened | .pulled _ | .noted _ => false

def spoken (es : List Event) : List Event := es.filter Event.isExchange

theorem spoken_append (es es' : List Event) : spoken (es ++ es') = spoken es ++ spoken es' :=
  List.filter_append ..

theorem spoken_map_noted (notes : List Note) : spoken (notes.map .noted) = [] := by
  induction notes with
  | nil => rfl
  | cons note notes ih => exact ih

theorem loaded_spoken (es : List Event) : loaded (spoken es) = loaded es :=
  loaded_filter (fun _ => rfl) es

end Mender.Search
