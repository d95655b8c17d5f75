import Mathlib.Algebra.Order.Group.Multiset
import Mathlib.Tactic.Abel

/-!
# Programs that acquire and release resources

A program runs on a state of its own and on an account: the resources it holds,
and how often it touched one it does not hold. The judgement is

* `Turns x s M a t N k` — from the state `s`, holding `M` and anything else, `x`
  returns `a` in the state `t`, holding `N` and the same anything else, after `k`
  stray operations.

The frame is part of the judgement, so the account of a program is put together
from the accounts of its parts; nothing released twice or never acquired can be
hidden in it, since both count as stray.
-/

namespace Grid0Relay.Lib.Ledger

variable {σ R α β : Type}

/-- A state with the account of its resources. -/
structure Books (σ R : Type) where
  state : σ
  held : Multiset R
  strays : Nat

/-- Programs over a state and an account. -/
abbrev LedgerM (σ R : Type) := StateM (Books σ R)

def read : LedgerM σ R σ := fun b => (b.state, b)

def update (f : σ → σ) : LedgerM σ R Unit := fun b => ((), { b with state := f b.state })

def acquire (r : R) : LedgerM σ R Unit := fun b => ((), { b with held := r ::ₘ b.held })

/-- An operation on something the program does not hold. -/
def stray : LedgerM σ R Unit := fun b => ((), { b with strays := b.strays + 1 })

def operate [DecidableEq R] (r : R) : LedgerM σ R Unit := fun b =>
  if r ∈ b.held then ((), b) else stray b

def release [DecidableEq R] (r : R) : LedgerM σ R Unit := fun b =>
  if r ∈ b.held then ((), { b with held := b.held.erase r }) else stray b

/-- From `s`, holding `M`, the program returns `a` in `t`, holding `N`, with `k`
stray operations; whatever else is held stays. -/
def Turns (x : LedgerM σ R α) (s : σ) (M : Multiset R) (a : α) (t : σ) (N : Multiset R)
    (k : Nat) : Prop :=
  ∀ F n, x ⟨s, M + F, n⟩ = (a, ⟨t, N + F, n + k⟩)

theorem add_eq_empty {M N : Multiset R} : M + N = 0 ↔ M = 0 ∧ N = 0 := by
  rw [← Multiset.card_eq_zero, Multiset.card_add, Nat.add_eq_zero_iff, Multiset.card_eq_zero,
    Multiset.card_eq_zero]

section Rules

variable {x : LedgerM σ R α} {f : α → LedgerM σ R β} {s t u : σ} {M N P K : Multiset R}
  {a : α} {b : β} {j k : Nat}

theorem turns_pure (a : α) (s : σ) : Turns (pure a : LedgerM σ R α) s M a s M 0 :=
  fun _ _ => rfl

theorem Turns.bind (hx : Turns x s M a t N j) (hf : Turns (f a) t N b u P k) :
    Turns (x >>= f) s M b u P (j + k) := by
  intro F n
  change f (x ⟨s, M + F, n⟩).1 (x ⟨s, M + F, n⟩).2 = _
  rw [hx F n, ← Nat.add_assoc]
  exact hf F (n + j)

/-- A first step without strays. -/
theorem Turns.andThen (hx : Turns x s M a t N 0) (hf : Turns (f a) t N b u P k) :
    Turns (x >>= f) s M b u P k := by
  simpa using hx.bind hf

/-- A second step without strays. -/
theorem Turns.followed (hx : Turns x s M a t N k) (hf : Turns (f a) t N b u P 0) :
    Turns (x >>= f) s M b u P k :=
  hx.bind hf

/-- What the program does not touch may be added on both sides. -/
theorem Turns.frame (hx : Turns x s M a t N k) (K : Multiset R) :
    Turns x s (M + K) a t (N + K) k := by
  intro F n
  rw [add_assoc, add_assoc]
  exact hx (K + F) n

/-- A program that starts with nothing adds to what is held. -/
theorem Turns.onto (hx : Turns x s 0 a t N k) (K : Multiset R) : Turns x s K a t (N + K) k := by
  simpa using hx.frame K

/-- A program that ends with nothing takes away from what is held. -/
theorem Turns.offof (hx : Turns x s M a t 0 k) (K : Multiset R) : Turns x s (M + K) a t K k := by
  simpa using hx.frame K

/-- The same account, written otherwise. -/
theorem Turns.cast {M' N' : Multiset R} {k' : Nat} (hx : Turns x s M a t N k) (hM : M = M')
    (hN : N = N') (hk : k = k') : Turns x s M' a t N' k' := by
  subst hM hN hk
  exact hx

theorem turns_read (s : σ) : Turns (read : LedgerM σ R σ) s M s s M 0 := fun _ _ => rfl

theorem turns_update (g : σ → σ) (s : σ) :
    Turns (update g : LedgerM σ R Unit) s M () (g s) M 0 := fun _ _ => rfl

theorem turns_acquire (r : R) (s : σ) :
    Turns (acquire r : LedgerM σ R Unit) s M () s ({r} + M) 0 := by
  intro F n
  simp only [acquire, Multiset.singleton_add, Multiset.cons_add]
  rfl

theorem turns_stray (s : σ) : Turns (stray : LedgerM σ R Unit) s M () s M 1 := fun _ _ => rfl

theorem turns_operate [DecidableEq R] (r : R) (s : σ) :
    Turns (operate r : LedgerM σ R Unit) s ({r} + M) () s ({r} + M) 0 := by
  intro F n
  have hmem : r ∈ {r} + M + F := by simp
  simp only [operate, if_pos hmem]
  rfl

theorem turns_release [DecidableEq R] (r : R) (s : σ) :
    Turns (release r : LedgerM σ R Unit) s ({r} + M) () s M 0 := by
  intro F n
  have hmem : r ∈ {r} + M + F := by simp
  have herase : ({r} + M + F).erase r = M + F := by
    rw [add_assoc, Multiset.singleton_add, Multiset.erase_cons_head]
  simp only [release, if_pos hmem, herase]
  rfl

theorem turns_ite_pos {c : Prop} [Decidable c] {y z : LedgerM σ R α} (h : c)
    (hy : Turns y s M a t N k) : Turns (if c then y else z) s M a t N k := by
  rw [if_pos h]
  exact hy

theorem turns_ite_neg {c : Prop} [Decidable c] {y z : LedgerM σ R α} (h : ¬ c)
    (hz : Turns z s M a t N k) : Turns (if c then y else z) s M a t N k := by
  rw [if_neg h]
  exact hz

end Rules

end Grid0Relay.Lib.Ledger
