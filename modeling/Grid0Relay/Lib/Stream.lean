import Mathlib.Data.List.Basic
import Mathlib.Data.List.TakeWhile

/-!
# Streams that arrive in pieces

A transducer reads one element at a time, so what it says about a stream does not
depend on how the stream is cut, and what each of its steps keeps its runs keep. Two
transducers the developments on top compare their buffering readers with: the lines of
a stream, and a sequence of fields each of which says how many elements the next one
takes.
-/

namespace Grid0Relay.Lib.Stream

variable {α σ τ ω : Type}

/-- The state a transducer ends in and what it has put out. -/
def run (step : σ → α → σ × List ω) : σ → List α → σ × List ω
  | s, [] => (s, [])
  | s, a :: rest => ((run step (step s a).1 rest).1, (step s a).2 ++ (run step (step s a).1 rest).2)

theorem run_append (step : σ → α → σ × List ω) (s : σ) (xs ys : List α) :
    run step s (xs ++ ys) =
      ((run step (run step s xs).1 ys).1, (run step s xs).2 ++ (run step (run step s xs).1 ys).2) := by
  induction xs generalizing s with
  | nil => rfl
  | cons x xs ih => simp only [List.cons_append, run, ih, List.append_assoc]

/-- A map of states that commutes with the steps commutes with runs. -/
theorem run_map {step : σ → α → σ × List ω} {step' : τ → α → τ × List ω} {f : σ → τ}
    (h : ∀ s a, step' (f s) a = (f (step s a).1, (step s a).2)) (s : σ) (xs : List α) :
    run step' (f s) xs = (f (run step s xs).1, (run step s xs).2) := by
  induction xs generalizing s with
  | nil => rfl
  | cons x xs ih => simp only [run, h, ih]

/-- Every step of a run meets the condition. -/
def Meets (step : σ → α → σ × List ω) (C : σ → α → Prop) : σ → List α → Prop
  | _, [] => True
  | s, a :: rest => C s a ∧ Meets step C (step s a).1 rest

instance decidableMeets (step : σ → α → σ × List ω) (C : σ → α → Prop)
    [∀ s a, Decidable (C s a)] : ∀ (s : σ) (xs : List α), Decidable (Meets step C s xs)
  | _, [] => .isTrue trivial
  | s, a :: rest =>
    have := decidableMeets step C (step s a).1 rest
    inferInstanceAs (Decidable (C s a ∧ Meets step C (step s a).1 rest))

theorem Meets.at {step : σ → α → σ × List ω} {C : σ → α → Prop} {s : σ} {xs : List α} {a : α}
    {ys : List α} (h : Meets step C s (xs ++ a :: ys)) : C (run step s xs).1 a := by
  induction xs generalizing s with
  | nil => exact h.1
  | cons x xs ih => exact ih h.2

theorem Meets.left {step : σ → α → σ × List ω} {C : σ → α → Prop} {s : σ} {xs ys : List α}
    (h : Meets step C s (xs ++ ys)) : Meets step C s xs := by
  induction xs generalizing s with
  | nil => trivial
  | cons x xs ih => exact ⟨h.1, ih h.2⟩

/-- What every step keeps, about the state, what was read and what was put out, a run
keeps. -/
theorem Meets.history {step : σ → α → σ × List ω} {C : σ → α → Prop}
    {I : List α → List ω → σ → Prop}
    (hstep : ∀ past out s a, C s a → I past out s →
      I (past ++ [a]) (out ++ (step s a).2) (step s a).1)
    {past : List α} {out : List ω} {s : σ} (hI : I past out s) {xs : List α}
    (h : Meets step C s xs) : I (past ++ xs) (out ++ (run step s xs).2) (run step s xs).1 := by
  induction xs generalizing past out s with
  | nil => simpa [run] using hI
  | cons x xs ih =>
    have hrest := ih (hstep past out s x h.1 hI) h.2
    simpa [run, List.append_assoc] using hrest

/-- A run that ends at rest has put something out, when every step that comes to rest
does. -/
theorem run_emits {step : σ → α → σ × List ω} {P : σ → Prop}
    (hstep : ∀ s a, P (step s a).1 → (step s a).2 ≠ []) (s : σ) {xs : List α} (hxs : xs ≠ [])
    (h : P (run step s xs).1) : (run step s xs).2 ≠ [] := by
  induction xs generalizing s with
  | nil => exact absurd rfl hxs
  | cons x xs ih =>
    intro hnone
    obtain ⟨hfirst, hrest⟩ := List.append_eq_nil_iff.mp hnone
    by_cases hxs' : xs = []
    · subst hxs'
      exact hstep s x h hfirst
    · exact ih _ hxs' h hrest

/-- Then a proper part of the input has not put the last thing out. -/
theorem run_left_prefix {step : σ → α → σ × List ω} {P : σ → Prop}
    (hstep : ∀ s a, P (step s a).1 → (step s a).2 ≠ []) (s : σ) (xs : List α) {ys : List α}
    (hys : ys ≠ []) (h : P (run step s (xs ++ ys)).1) :
    (run step s xs).2 <+: (run step s (xs ++ ys)).2.dropLast := by
  rw [run_append] at h ⊢
  rw [List.dropLast_append_of_ne_nil (run_emits hstep _ hys h)]
  exact List.prefix_append _ _

/-! ## Lines -/

section Lines

variable [DecidableEq α] (sep : α)

/-- Collect up to the separator. -/
def lineStep (cur : List α) (a : α) : List α × List (List α) :=
  if a = sep then ([], [cur]) else (cur ++ [a], [])

theorem run_lineStep_none {xs : List α} (h : sep ∉ xs) (cur : List α) :
    run (lineStep sep) cur xs = (cur ++ xs, []) := by
  induction xs generalizing cur with
  | nil => simp [run]
  | cons x xs ih =>
    rw [List.mem_cons, not_or] at h
    have hstep : lineStep sep cur x = (cur ++ [x], []) := if_neg (Ne.symm h.1)
    simp only [run, hstep, ih h.2, List.append_assoc, List.singleton_append, List.nil_append]

/-- The first line of a stream that has one. -/
theorem run_lineStep_line {line : List α} (h : sep ∉ line) (cur rest : List α) :
    run (lineStep sep) cur (line ++ sep :: rest) =
      ((run (lineStep sep) [] rest).1, (cur ++ line) :: (run (lineStep sep) [] rest).2) := by
  have hsep : lineStep sep (cur ++ line) sep = ([], [cur ++ line]) := if_pos rfl
  simp only [run_append, run_lineStep_none sep h, run, hsep, List.nil_append,
    List.singleton_append]

/-- A stream with a separator, cut at the first one. -/
theorem eq_takeWhile_append {xs : List α} (h : sep ∈ xs) :
    xs = xs.takeWhile (· ≠ sep) ++ sep :: (xs.dropWhile (· ≠ sep)).drop 1 := by
  induction xs with
  | nil => simp at h
  | cons x xs ih =>
    by_cases hx : x = sep
    · simp [hx]
    · have hmem : sep ∈ xs := (List.mem_cons.mp h).resolve_left (Ne.symm hx)
      simp only [List.takeWhile_cons, List.dropWhile_cons, ne_eq, hx, not_false_eq_true,
        decide_true, if_true, List.cons_append]
      exact congrArg (x :: ·) (ih hmem)

theorem dropWhile_of_notMem {xs : List α} (h : sep ∉ xs) : xs.dropWhile (· ≠ sep) = [] := by
  rw [List.dropWhile_eq_nil_iff]
  intro x hx
  have hne : x ≠ sep := fun heq => h (heq ▸ hx)
  simpa using hne

theorem notMem_takeWhile (xs : List α) : sep ∉ xs.takeWhile (· ≠ sep) := by
  intro h
  have hall := List.all_takeWhile (l := xs) (p := fun x => decide (x ≠ sep))
  have hne := List.all_eq_true.mp hall sep h
  simp at hne

end Lines

/-! ## Fields -/

section Fields

variable (want : σ → Nat) (next : σ → List α → σ × List ω)

/-- Collect a field; with its last element, go on to the next. -/
def fieldStep (s : σ × List α) (a : α) : (σ × List α) × List ω :=
  if s.2.length + 1 < want s.1 then ((s.1, s.2 ++ [a]), [])
  else (((next s.1 (s.2 ++ [a])).1, []), (next s.1 (s.2 ++ [a])).2)

theorem run_fieldStep_short {s : σ} {got xs : List α} (h : got.length + xs.length < want s) :
    run (fieldStep want next) (s, got) xs = ((s, got ++ xs), []) := by
  induction xs generalizing got with
  | nil => simp [run]
  | cons x xs ih =>
    rw [List.length_cons] at h
    have hroom : got.length + 1 < want s := by omega
    have hstep : fieldStep want next (s, got) x = ((s, got ++ [x]), []) := if_pos hroom
    have hleft : (got ++ [x]).length + xs.length < want s := by
      rw [List.length_append, List.length_singleton]
      omega
    have hrest := ih hleft
    simp only [run, hstep, hrest, List.append_assoc, List.singleton_append, List.nil_append]

/-- The whole of a field. -/
theorem run_fieldStep_whole {s : σ} {xs : List α} (hlen : xs.length = want s) (hpos : 0 < want s) :
    run (fieldStep want next) (s, []) xs = (((next s xs).1, []), (next s xs).2) := by
  obtain ⟨init, last, rfl⟩ : ∃ init last, xs = init ++ [last] :=
    ⟨xs.dropLast, xs.getLast (by rintro rfl; simp at hlen; omega), (List.dropLast_append_getLast _).symm⟩
  rw [List.length_append, List.length_singleton] at hlen
  have hinit : run (fieldStep want next) (s, []) init = ((s, [] ++ init), []) :=
    run_fieldStep_short want next (by simp; omega)
  have hlast : fieldStep want next (s, init) last =
      (((next s (init ++ [last])).1, []), (next s (init ++ [last])).2) := if_neg (by simp; omega)
  simp only [run_append, hinit, List.nil_append, run, hlast, List.append_nil]

end Fields

end Grid0Relay.Lib.Stream
