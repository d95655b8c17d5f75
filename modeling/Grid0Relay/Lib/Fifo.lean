import Mathlib.Data.List.Basic

/-!
# Queues threaded through an arena

Cells are appended to an arena and never moved; each holds a pointer to the next. A queue
that is filled at the back and emptied at the front is then a final segment of the arena
(`Threaded`). The second half is about what a queue has passed on when its items are
worked off in order: `take`s of the items are a prefix of their concatenation.
-/

namespace Grid0Relay.Lib.Fifo

variable {α β : Type}

/-! ## Threads -/

/-- The pointer to a cell of an arena of `n` cells, null past the end. -/
def link (n i : Nat) : Option Nat := if i < n then some i else none

theorem link_of_lt {n i : Nat} (h : i < n) : link n i = some i := if_pos h

@[simp] theorem link_self (n : Nat) : link n n = none := if_neg (Nat.lt_irrefl n)

/-- The cells from the `i`-th on, each pointing to the one after it. -/
def Threaded (next : α → Option Nat) (n : Nat) : Nat → List α → Prop
  | _, [] => True
  | i, x :: xs => next x = link n (i + 1) ∧ Threaded next n (i + 1) xs

variable {next : α → Option Nat} {n i : Nat} {xs ys : List α}

theorem threaded_append :
    Threaded next n i (xs ++ ys) ↔
      Threaded next n i xs ∧ Threaded next n (i + xs.length) ys := by
  induction xs generalizing i with
  | nil => simp [Threaded]
  | cons x xs ih =>
    rw [List.cons_append, Threaded, Threaded, ih, List.length_cons, and_assoc]
    have hpos : i + 1 + xs.length = i + (xs.length + 1) := by omega
    rw [hpos]

/-- Only the pointers matter. -/
theorem Threaded.congr (h : Threaded next n i xs) (same : ys.map next = xs.map next) :
    Threaded next n i ys := by
  induction xs generalizing i ys with
  | nil =>
    rw [List.map_nil, List.map_eq_nil_iff] at same
    subst same
    exact h
  | cons x xs ih =>
    cases ys with
    | nil => cases same
    | cons y ys =>
      rw [List.map_cons, List.map_cons, List.cons.injEq] at same
      exact ⟨same.1.trans h.1, ih h.2 same.2⟩

/-- A thread that does not reach the end of the arena survives its growth. -/
theorem Threaded.grow (h : Threaded next n i xs) (inner : i + xs.length < n) :
    Threaded next (n + 1) i xs := by
  induction xs generalizing i with
  | nil => trivial
  | cons x xs ih =>
    rw [List.length_cons] at inner
    refine ⟨?_, ih h.2 (by omega)⟩
    rw [h.1, link_of_lt (by omega), link_of_lt (by omega)]

/-! ## In order -/

/-- An item is touched only after everything before it is through. -/
def InOrder (size sent : α → Nat) (queue : List α) : Prop :=
  queue.Pairwise fun x y => sent x < size x → sent y = 0

theorem flatMap_take_zero {data : α → List β} {sent : α → Nat} {queue : List α}
    (h : ∀ x ∈ queue, sent x = 0) : queue.flatMap (fun x => (data x).take (sent x)) = [] := by
  rw [List.flatMap_eq_nil_iff]
  intro x hx
  rw [h x hx, List.take_zero]

theorem prefix_flatMap_take {data : α → List β} {sent : α → Nat} {queue : List α}
    (h : InOrder (fun x => (data x).length) sent queue) :
    queue.flatMap (fun x => (data x).take (sent x)) <+: queue.flatMap data := by
  induction queue with
  | nil => exact List.prefix_rfl
  | cons x queue ih =>
    obtain ⟨hx, hrest⟩ := List.pairwise_cons.mp h
    rw [List.flatMap_cons, List.flatMap_cons]
    by_cases hdone : sent x < (data x).length
    · -- the queue behind `x` is untouched
      rw [flatMap_take_zero fun y hy => hx y hy hdone, List.append_nil]
      have htake := List.take_prefix (sent x) (data x)
      exact htake.trans (List.prefix_append _ _)
    · rw [List.take_of_length_le (Nat.le_of_not_lt hdone)]
      exact (List.prefix_append_right_inj _).mpr (ih hrest)

end Grid0Relay.Lib.Fifo
