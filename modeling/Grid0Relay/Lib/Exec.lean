import Mathlib.Order.Basic

/-!
# Reasoning about faulting state programs

Programs are `EStateM ε σ α`: they return a value or stop with a fault, and in
both cases leave a state. The judgements the developments on top of this file
need:

* `Returns x` and `Allows P r` — a program that never faults, and an execution
  that stops only with certain faults;
* `Reads x` — the outcome does not depend on the state, which stays;
* `Keeps f x` — the observation `f` of the state survives `x`, faulting or not;
* `Steps R x` — every state is `R`-related to the state `x` leaves, for a
  reflexive and transitive `R` (an append-only log, a monotone clock).

The rules follow the monad: one for each constructor of a program.
-/

namespace Grid0Relay.Lib.Exec

variable {ε σ α β γ : Type}

/-- The state an execution leaves, whether it returns or faults. -/
def after : EStateM.Result ε σ α → σ
  | .ok _ s => s
  | .error _ s => s

@[simp] theorem after_ok (a : α) (s : σ) : after (.ok a s : EStateM.Result ε σ α) = s := rfl

@[simp] theorem after_error (e : ε) (s : σ) :
    after (.error e s : EStateM.Result ε σ α) = s := rfl

/-! ## Running a program -/

@[simp] theorem pure_apply (a : α) (s : σ) : (pure a : EStateM ε σ α) s = .ok a s := rfl

@[simp] theorem throw_apply (e : ε) (s : σ) : (throw e : EStateM ε σ α) s = .error e s := rfl

@[simp] theorem get_apply (s : σ) : (get : EStateM ε σ σ) s = .ok s s := rfl

@[simp] theorem modify_apply (f : σ → σ) (s : σ) :
    (modify f : EStateM ε σ PUnit) s = .ok ⟨⟩ (f s) := rfl

@[simp] theorem modifyGet_apply (f : σ → α × σ) (s : σ) :
    (modifyGet f : EStateM ε σ α) s = .ok (f s).1 (f s).2 := rfl

@[simp] theorem ite_run (c : Prop) [Decidable c] (x y : EStateM ε σ α) (s : σ) :
    (if c then x else y) s = if c then x s else y s := by
  split <;> rfl

theorem bind_apply (x : EStateM ε σ α) (f : α → EStateM ε σ β) (s : σ) :
    (x >>= f) s = match x s with
      | .ok a s' => f a s'
      | .error e s' => .error e s' := rfl

theorem tryCatch_apply (x : EStateM ε σ α) (h : ε → EStateM ε σ α) (s : σ) :
    (tryCatch x h) s = match x s with
      | .ok a s' => .ok a s'
      | .error e s' => h e s' := by
  change EStateM.tryCatch x h s = _
  unfold EStateM.tryCatch
  cases x s <;> rfl

theorem map_apply (x : EStateM ε σ α) (f : α → β) (s : σ) :
    (f <$> x) s = match x s with
      | .ok a s' => .ok (f a) s'
      | .error e s' => .error e s' := rfl

/-- Run the first half of a sequence that returns. -/
theorem bind_ok {x : EStateM ε σ α} {f : α → EStateM ε σ β} {s s' : σ} {a : α}
    (h : x s = .ok a s') : (x >>= f) s = f a s' := by
  rw [bind_apply, h]

theorem bind_error {x : EStateM ε σ α} {f : α → EStateM ε σ β} {s s' : σ} {e : ε}
    (h : x s = .error e s') : (x >>= f) s = .error e s' := by
  rw [bind_apply, h]

theorem bind_pure_unit (x : EStateM ε σ Unit) (s : σ) : (x >>= fun _ => pure ()) s = x s := by
  rw [bind_apply]
  cases x s <;> rfl

/-- A sequence returns when both halves do. -/
theorem bind_eq_ok {x : EStateM ε σ α} {f : α → EStateM ε σ β} {s t : σ} {b : β}
    (h : (x >>= f) s = .ok b t) : ∃ a s', x s = .ok a s' ∧ f a s' = .ok b t := by
  rw [bind_apply] at h
  cases hx : x s with
  | ok a s' =>
    rw [hx] at h
    exact ⟨a, s', rfl, h⟩
  | error e s' =>
    rw [hx] at h
    exact absurd h (by simp)

/-! ## Returning -/

/-- `x` returns from every state. -/
def Returns (x : EStateM ε σ α) : Prop := ∀ s, ∃ a s', x s = .ok a s'

theorem returns_pure (a : α) : Returns (pure a : EStateM ε σ α) := fun s => ⟨a, s, rfl⟩

theorem returns_get : Returns (get : EStateM ε σ σ) := fun s => ⟨s, s, rfl⟩

theorem returns_modify (f : σ → σ) : Returns (modify f : EStateM ε σ PUnit) :=
  fun s => ⟨⟨⟩, f s, rfl⟩

theorem returns_bind {x : EStateM ε σ α} {f : α → EStateM ε σ β} (hx : Returns x)
    (hf : ∀ a, Returns (f a)) : Returns (x >>= f) := by
  intro s
  obtain ⟨a, s', h⟩ := hx s
  rw [bind_ok h]
  exact hf a s'

theorem returns_ite {c : Prop} [Decidable c] {x y : EStateM ε σ α} (hx : c → Returns x)
    (hy : ¬ c → Returns y) : Returns (if c then x else y) := by
  split
  · exact hx ‹_›
  · exact hy ‹_›

/-- An execution stops only with a fault that `P` allows. -/
def Allows (P : ε → Prop) (r : EStateM.Result ε σ α) : Prop := ∀ e s, r = .error e s → P e

@[simp] theorem allows_ok (P : ε → Prop) (a : α) (s : σ) :
    Allows P (.ok a s : EStateM.Result ε σ α) := fun _ _ h => by cases h

@[simp] theorem allows_error (P : ε → Prop) (e : ε) (s : σ) :
    Allows P (.error e s : EStateM.Result ε σ α) ↔ P e := by
  refine ⟨fun h => h e s rfl, ?_⟩
  rintro h _ _ ⟨⟩
  exact h

theorem Returns.allows {x : EStateM ε σ α} (h : Returns x) (P : ε → Prop) (s : σ) :
    Allows P (x s) := by
  obtain ⟨a, s', hok⟩ := h s
  rw [hok]
  exact allows_ok P a s'

/-- What follows returns, so only the first half can stop. -/
theorem allows_bind_returns {P : ε → Prop} {x : EStateM ε σ α} {f : α → EStateM ε σ β} {s : σ}
    (hf : ∀ a, Returns (f a)) : Allows P ((x >>= f) s) ↔ Allows P (x s) := by
  cases h : x s with
  | ok a s' => simp [bind_ok h, (hf a).allows P s']
  | error e s' => simp [bind_error h]

/-! ## Programs that only read -/

/-- The outcome of `x` does not depend on the state, and `x` leaves it alone. -/
def Reads (x : EStateM ε σ α) : Prop :=
  ∃ r : Except ε α, ∀ s, x s = match r with
    | .ok a => .ok a s
    | .error e => .error e s

theorem reads_pure (a : α) : Reads (pure a : EStateM ε σ α) := ⟨.ok a, fun _ => rfl⟩

theorem reads_throw (e : ε) : Reads (throw e : EStateM ε σ α) := ⟨.error e, fun _ => rfl⟩

theorem reads_bind {x : EStateM ε σ α} {f : α → EStateM ε σ β} (hx : Reads x)
    (hf : ∀ a, Reads (f a)) : Reads (x >>= f) := by
  obtain ⟨r, hr⟩ := hx
  cases r with
  | ok a =>
    obtain ⟨r', hr'⟩ := hf a
    exact ⟨r', fun s => by rw [bind_apply, hr s]; exact hr' s⟩
  | error e => exact ⟨.error e, fun s => by rw [bind_apply, hr s]⟩

theorem reads_ite {c : Prop} [Decidable c] {x y : EStateM ε σ α} (hx : c → Reads x)
    (hy : ¬ c → Reads y) : Reads (if c then x else y) := by
  split
  · exact hx ‹_›
  · exact hy ‹_›

theorem reads_guard {c : Prop} [Decidable c] {a : α} {x : EStateM ε σ α} (hx : ¬ c → Reads x) :
    Reads (if c then pure a else x) := reads_ite (fun _ => reads_pure a) hx

theorem reads_when {c : Prop} [Decidable c] {a : α} {x : EStateM ε σ α} (hx : c → Reads x) :
    Reads (if c then x else pure a) := reads_ite hx fun _ => reads_pure a

/-- What a reading program returns in one state it returns in every state. -/
theorem Reads.ok_of_ok {x : EStateM ε σ α} (h : Reads x) {s s' : σ} {a : α} (hs : x s = .ok a s') :
    s' = s ∧ ∀ t, x t = .ok a t := by
  obtain ⟨r, hr⟩ := h
  cases r with
  | ok b =>
    rw [hr s] at hs
    injection hs with hb hs
    exact ⟨hs.symm, fun t => by rw [hr t, hb]⟩
  | error e =>
    rw [hr s] at hs
    exact absurd hs (by simp)

theorem Reads.after {x : EStateM ε σ α} (h : Reads x) (s : σ) : Exec.after (x s) = s := by
  obtain ⟨r, hr⟩ := h
  rw [hr s]
  cases r <;> rfl

/-! ## Relations every execution respects -/

/-- Every state is `R`-related to the state `x` leaves. -/
def Steps (R : σ → σ → Prop) (x : EStateM ε σ α) : Prop := ∀ s, R s (after (x s))

/-- The two states look the same through `f`. -/
def Same (f : σ → β) (s s' : σ) : Prop := f s' = f s

instance (f : σ → β) : Std.Refl (Same f) := ⟨fun _ => rfl⟩

instance (f : σ → β) : IsTrans σ (Same f) := ⟨fun _ _ _ h h' => Eq.trans h' h⟩

/-- The observation `f` of the state survives `x`. -/
abbrev Keeps (f : σ → β) (x : EStateM ε σ α) : Prop := Steps (Same f) x

section Rules

variable {R : σ → σ → Prop}

@[simp] theorem steps_pure [Std.Refl R] (a : α) : Steps R (pure a : EStateM ε σ α) :=
  fun s => refl s

@[simp] theorem steps_throw [Std.Refl R] (e : ε) : Steps R (throw e : EStateM ε σ α) :=
  fun s => refl s

@[simp] theorem steps_get [Std.Refl R] : Steps R (get : EStateM ε σ σ) := fun s => refl s

@[simp] theorem steps_bind [IsTrans σ R] {x : EStateM ε σ α} {f : α → EStateM ε σ β}
    (hx : Steps R x) (hf : ∀ a, Steps R (f a)) : Steps R (x >>= f) := by
  intro s
  have first := hx s
  rw [bind_apply]
  cases h : x s with
  | ok a s' =>
    rw [h] at first
    exact IsTrans.trans _ _ _ first (hf a s')
  | error e s' =>
    rw [h] at first
    exact first

theorem steps_tryCatch [IsTrans σ R] {x : EStateM ε σ α} {h : ε → EStateM ε σ α}
    (hx : Steps R x) (hh : ∀ e, Steps R (h e)) : Steps R (tryCatch x h) := by
  intro s
  have first := hx s
  rw [tryCatch_apply]
  cases hrun : x s with
  | ok a s' =>
    rw [hrun] at first
    exact first
  | error e s' =>
    rw [hrun] at first
    exact IsTrans.trans _ _ _ first (hh e s')

@[simp] theorem steps_map {f : α → β} {x : EStateM ε σ α} (hx : Steps R x) :
    Steps R (f <$> x) := by
  intro s
  have first := hx s
  rw [map_apply]
  cases h : x s with
  | ok a s' | error e s' => rw [h] at first; exact first

@[simp] theorem steps_ite {c : Prop} [Decidable c] {x y : EStateM ε σ α}
    (hx : c → Steps R x) (hy : ¬ c → Steps R y) : Steps R (if c then x else y) := by
  split
  · exact hx ‹_›
  · exact hy ‹_›

theorem steps_guard [Std.Refl R] {c : Prop} [Decidable c] {a : α} {x : EStateM ε σ α}
    (hx : ¬ c → Steps R x) : Steps R (if c then pure a else x) := steps_ite (fun _ => steps_pure a) hx

theorem steps_when [Std.Refl R] {c : Prop} [Decidable c] {a : α} {x : EStateM ε σ α}
    (hx : c → Steps R x) : Steps R (if c then x else pure a) := steps_ite hx fun _ => steps_pure a

theorem Reads.steps [Std.Refl R] {x : EStateM ε σ α} (h : Reads x) : Steps R x := by
  intro s
  rw [h.after]
  exact refl s

end Rules

end Grid0Relay.Lib.Exec
