import Mathlib.Data.List.TakeWhile
import Mathlib.Tactic.Common
import Mender.Report.Style

/-!
A terminal that takes colours. It does not show the sequences that set a style: a sequence is in
force from where it stands up to the next reset. Painted text shows as the text itself, all of it in
the style it was painted with.
-/

namespace Mender.Report

def isParameter (c : Char) : Bool := c.isDigit || c = ';'

def sequence? : List Char → Option (List Char × List Char)
  | '\x1b' :: '[' :: cs =>
    match cs.dropWhile isParameter with
    | 'm' :: rest => some (cs.takeWhile isParameter, rest)
    | _ => none
  | _ => none

theorem length_lt_of_sequence? {cs parameters rest : List Char}
    (h : sequence? cs = some (parameters, rest)) : rest.length < cs.length := by
  unfold sequence? at h
  split at h
  · next cs =>
    split at h
    · next rest' hrest =>
      obtain ⟨-, rfl⟩ := Prod.mk.inj (Option.some.inj h)
      have hdrop := (List.dropWhile_suffix isParameter (l := cs)).length_le
      rw [hrest, List.length_cons] at hdrop
      simp only [List.length_cons]
      omega
    · cases h
  · cases h

/-- The parameters in force behind a sequence: a zero takes back all that came before. -/
def enforce (force : List (List Char)) (parameters : List Char) : List (List Char) :=
  if parameters = ['0'] then [] else force ++ [parameters]

/-- The characters that a terminal shows, each with the parameters in force there. -/
def shown (force : List (List Char)) (cs : List Char) : List (Char × List (List Char)) :=
  match _h : sequence? cs with
  | some (parameters, rest) => shown (enforce force parameters) rest
  | none =>
    match cs with
    | [] => []
    | c :: cs => (c, force) :: shown force cs
termination_by cs.length
decreasing_by
  · exact length_lt_of_sequence? _h
  · simp

theorem shown_of_some {force : List (List Char)} {cs parameters rest : List Char}
    (h : sequence? cs = some (parameters, rest)) :
    shown force cs = shown (enforce force parameters) rest := by
  rw [shown]
  split
  · next h' =>
    rw [h] at h'
    cases h'
    rfl
  · next h' =>
    rw [h] at h'
    cases h'

theorem shown_of_none {force : List (List Char)} {c : Char} {cs : List Char}
    (h : sequence? (c :: cs) = none) : shown force (c :: cs) = (c, force) :: shown force cs := by
  rw [shown]
  split
  · next h' =>
    rw [h] at h'
    cases h'
  · rfl

theorem shown_nil (force : List (List Char)) : shown force [] = [] := by
  rw [shown]
  rfl

theorem sequence?_cons {c : Char} (hc : c ≠ '\x1b') (cs : List Char) :
    sequence? (c :: cs) = none := by
  unfold sequence?
  split
  · next h => exact absurd (List.cons.inj h).1 hc
  · rfl

theorem sequence?_of_parameters {parameters : List Char}
    (h : parameters.all isParameter = true) (cs : List Char) :
    sequence? ('\x1b' :: '[' :: (parameters ++ 'm' :: cs)) = some (parameters, cs) := by
  have hm : ¬isParameter 'm' = true := by decide
  have hall := List.all_eq_true.mp h
  have hdrop : (parameters ++ 'm' :: cs).dropWhile isParameter = 'm' :: cs := by
    rw [List.dropWhile_append_of_pos hall, List.dropWhile_cons_of_neg hm]
  have htake : (parameters ++ 'm' :: cs).takeWhile isParameter = parameters := by
    rw [List.takeWhile_append_of_pos hall, List.takeWhile_cons_of_neg hm, List.append_nil]
  simp only [sequence?, hdrop, htake]

theorem shown_append (force : List (List Char)) {text : List Char} (h : '\x1b' ∉ text)
    (cs : List Char) : shown force (text ++ cs) = text.map (·, force) ++ shown force cs := by
  induction text with
  | nil => rfl
  | cons c text ih =>
    rw [List.mem_cons, not_or] at h
    rw [List.cons_append, shown_of_none (sequence?_cons (Ne.symm h.1) _), ih h.2, List.map_cons,
      List.cons_append]

namespace Style

def parameters (s : Style) : List Char := (";".intercalate s.codes).toList

def force (s : Style) : List (List Char) := if s = plain then [] else [s.parameters]

theorem all_parameters (s : Style) : s.parameters.all isParameter = true := by
  obtain ⟨bold, color⟩ := s
  cases color with
  | none => cases bold <;> decide
  | some color => cases bold <;> cases color <;> decide

theorem parameters_ne_zero (s : Style) : s.parameters ≠ ['0'] := by
  obtain ⟨bold, color⟩ := s
  cases color with
  | none => cases bold <;> decide
  | some color => cases bold <;> cases color <;> decide

theorem shown_opening (s : Style) (force : List (List Char)) (cs : List Char) :
    shown force (s.opening ++ cs) = shown (force ++ [s.parameters]) cs := by
  have hopening : s.opening ++ cs = '\x1b' :: '[' :: (s.parameters ++ 'm' :: cs) := by
    simp [opening, parameters]
  rw [hopening, shown_of_some (sequence?_of_parameters s.all_parameters cs), enforce,
    if_neg s.parameters_ne_zero]

theorem shown_reset (force : List (List Char)) (cs : List Char) :
    shown force (reset ++ cs) = shown [] cs := by
  have hzero : ['0'].all isParameter = true := by decide
  exact shown_of_some (sequence?_of_parameters hzero cs)

theorem reopen_eq_self (opening : List Char) {text : List Char} (h : '\x1b' ∉ text) :
    reopen opening text = text := by
  induction text with
  | nil => rfl
  | cons c text ih =>
    rw [List.mem_cons, not_or] at h
    rw [reopen, ih h.2]
    rintro cs rfl
    exact absurd rfl h.1

theorem shown_paint (s : Style) {text : List Char} (h : '\x1b' ∉ text) (cs : List Char) :
    shown [] (s.paint true text ++ cs) = text.map (·, s.force) ++ shown [] cs := by
  by_cases hs : s = plain
  · simp [paint, force, hs, shown_append [] h]
  · have hpaint : s.paint true text = s.opening ++ text ++ reset := by
      simp [paint, hs, reopen_eq_self _ h]
    rw [hpaint, force, if_neg hs, List.append_assoc, List.append_assoc, shown_opening,
      List.nil_append, shown_append _ h, shown_reset]

theorem paint_false (s : Style) (text : List Char) : s.paint false text = text := rfl

end Style

end Mender.Report
