import Mathlib.Data.List.Basic

/-!
# Fixed tables of slots

A table is a list of fixed length; an insertion overwrites the first slot that
may be reused and fails when there is none. `replaceFirst` is that operation,
and `replaceFirst_some` says everything it does: the list is cut at the first
reusable slot and only that slot changes.
-/

namespace Grid0Relay.Lib.Slots

variable {α : Type} {p : α → Bool} {x : α} {l l' : List α}

/-- Overwrite the first slot satisfying `p`. -/
def replaceFirst (p : α → Bool) (x : α) : List α → Option (List α)
  | [] => none
  | a :: rest => if p a then some (x :: rest) else (replaceFirst p x rest).map (a :: ·)

/-- The cut a successful insertion makes. -/
theorem replaceFirst_some (h : replaceFirst p x l = some l') :
    ∃ pre a post, l = pre ++ a :: post ∧ l' = pre ++ x :: post ∧ p a = true ∧
      ∀ b ∈ pre, p b = false := by
  induction l generalizing l' with
  | nil => simp [replaceFirst] at h
  | cons a rest ih =>
    rw [replaceFirst] at h
    by_cases hp : p a = true
    · rw [if_pos hp, Option.some.injEq] at h
      exact ⟨[], a, rest, rfl, h.symm, hp, by simp⟩
    · rw [if_neg hp, Option.map_eq_some_iff] at h
      obtain ⟨tail, htail, rfl⟩ := h
      obtain ⟨pre, b, post, rfl, rfl, hb, hpre⟩ := ih htail
      refine ⟨a :: pre, b, post, rfl, rfl, hb, ?_⟩
      intro c hc
      rcases List.mem_cons.mp hc with rfl | hc
      · exact Bool.eq_false_iff.mpr hp
      · exact hpre c hc

theorem replaceFirst_none : replaceFirst p x l = none ↔ ∀ a ∈ l, p a = false := by
  induction l with
  | nil => simp [replaceFirst]
  | cons a rest ih =>
    rw [replaceFirst]
    by_cases hp : p a = true
    · simp [hp]
    · simp [hp, ih]

/-- An insertion overwrites the slot a search finds, so it changes nothing exactly
when that slot already held the value. -/
theorem replaceFirst_eq_self (h : replaceFirst p x l = some l') :
    ∃ a, l.find? p = some a ∧ (l' = l ↔ a = x) := by
  obtain ⟨pre, a, post, rfl, rfl, hp, hpre⟩ := replaceFirst_some h
  refine ⟨a, ?_, ?_⟩
  · rw [List.find?_append, List.find?_eq_none.mpr (by simpa using hpre), Option.none_or,
      List.find?_cons_of_pos hp]
  · rw [List.append_cancel_left_eq, List.cons.injEq, eq_comm]
    exact and_iff_left rfl

/-- Insertion keeps the size of the table. -/
theorem length_replaceFirst (h : replaceFirst p x l = some l') : l'.length = l.length := by
  obtain ⟨pre, a, post, rfl, rfl, _, _⟩ := replaceFirst_some h
  simp

/-- A slot of the new table is the inserted one or an old one. -/
theorem mem_replaceFirst (h : replaceFirst p x l = some l') {b : α} (hb : b ∈ l') :
    b = x ∨ b ∈ l := by
  obtain ⟨pre, a, post, rfl, rfl, _, _⟩ := replaceFirst_some h
  simp only [List.mem_append, List.mem_cons] at hb ⊢
  tauto

/-- A relation between the slots survives an insertion, if the new slot takes it over
from the slot it replaces. -/
theorem pairwise_replaceFirst {R : α → α → Prop} [Std.Symm R]
    (h : replaceFirst p x l = some l') (hl : l.Pairwise R)
    (hx : ∀ a b, p a = true → b ∈ l → R a b → R x b) : l'.Pairwise R := by
  obtain ⟨pre, a, post, rfl, rfl, hp, -⟩ := replaceFirst_some h
  obtain ⟨hpre, hrest, hcross⟩ := List.pairwise_append.mp hl
  obtain ⟨hpost, htail⟩ := List.pairwise_cons.mp hrest
  refine List.pairwise_append.mpr ⟨hpre, List.pairwise_cons.mpr ⟨fun b hb => ?_, htail⟩, ?_⟩
  · exact hx a b hp (by simp [hb]) (hpost b hb)
  · intro b hb c hc
    rcases List.mem_cons.mp hc with rfl | hc
    · exact Std.Symm.symm _ _ (hx a b hp (by simp [hb])
        (Std.Symm.symm _ _ (hcross b hb a (by simp))))
    · exact hcross b hb c (by simp [hc])

/-- The slots the scan passes over stay. -/
theorem mem_replaceFirst_of_not (h : replaceFirst p x l = some l') {b : α} (hb : b ∈ l)
    (hp : p b = false) : b ∈ l' := by
  obtain ⟨pre, a, post, rfl, rfl, ha, -⟩ := replaceFirst_some h
  rcases List.mem_append.mp hb with hpre | hpost
  · exact List.mem_append_left _ hpre
  · rcases List.mem_cons.mp hpost with rfl | hpost
    · rw [hp] at ha
      cases ha
    · exact List.mem_append_right _ (List.mem_cons_of_mem _ hpost)

theorem mem_of_replaceFirst (h : replaceFirst p x l = some l') : x ∈ l' := by
  obtain ⟨pre, a, post, rfl, rfl, _, _⟩ := replaceFirst_some h
  simp

end Grid0Relay.Lib.Slots
