import Grid0Relay.Lib.Exec

/-!
# Two runs of one program

`Relates p q x`: run from two states related by `p`, `x` does the same twice. It
returns the same value or stops with the same fault, and leaves states related by
`q`. With `p` and `q` equality up to some part of the state, that part does not
influence what `x` does to the rest.
-/

namespace Grid0Relay.Lib.Exec

variable {ε σ α β : Type} {p q r : σ → σ → Prop}

/-- Two executions ended in the same way, in states related by `q`. -/
inductive Alike (q : σ → σ → Prop) : EStateM.Result ε σ α → EStateM.Result ε σ α → Prop
  | ok (a : α) {s t : σ} (h : q s t) : Alike q (.ok a s) (.ok a t)
  | error (e : ε) {s t : σ} (h : q s t) : Alike q (.error e s) (.error e t)

theorem Alike.after {x y : EStateM.Result ε σ α} (h : Alike q x y) :
    q (Exec.after x) (Exec.after y) := by
  cases h with
  | ok a h => exact h
  | error e h => exact h

theorem Alike.mono {x y : EStateM.Result ε σ α} (h : Alike q x y) (hle : ∀ s t, q s t → r s t) :
    Alike r x y := by
  cases h with
  | ok a h => exact .ok a (hle _ _ h)
  | error e h => exact .error e (hle _ _ h)

/-- From states related by `p`, the program does the same and keeps `q`. -/
def Relates (p q : σ → σ → Prop) (x : EStateM ε σ α) : Prop := ∀ s t, p s t → Alike q (x s) (x t)

theorem Relates.mono {x : EStateM ε σ α} (h : Relates p q x) (hle : ∀ s t, q s t → r s t) :
    Relates p r x := fun s t hst => (h s t hst).mono hle

@[simp] theorem relates_pure (a : α) : Relates p p (pure a : EStateM ε σ α) :=
  fun _ _ h => .ok a h

@[simp] theorem relates_throw (e : ε) : Relates p p (throw e : EStateM ε σ α) :=
  fun _ _ h => .error e h

/-- The first half may fault, so `q` has to imply what the whole program promises. -/
theorem relates_bind {x : EStateM ε σ α} {f : α → EStateM ε σ β} (hx : Relates p q x)
    (hf : ∀ a, Relates q r (f a)) (hle : ∀ s t, q s t → r s t) : Relates p r (x >>= f) := by
  intro s t h
  have first := hx s t h
  rw [bind_apply, bind_apply]
  cases hs : x s with
  | ok a s' =>
    cases ht : x t with
    | ok b t' =>
      rw [hs, ht] at first
      cases first with
      | ok _ hrel => exact hf a _ _ hrel
    | error e t' =>
      rw [hs, ht] at first
      cases first
  | error e s' =>
    cases ht : x t with
    | ok b t' =>
      rw [hs, ht] at first
      cases first
    | error e' t' =>
      rw [hs, ht] at first
      cases first with
      | error _ hrel => exact .error e (hle _ _ hrel)

theorem relates_tryCatch {x : EStateM ε σ α} {h : ε → EStateM ε σ α} (hx : Relates p q x)
    (hh : ∀ e, Relates q r (h e)) (hle : ∀ s t, q s t → r s t) : Relates p r (tryCatch x h) := by
  intro s t hst
  have first := hx s t hst
  rw [tryCatch_apply, tryCatch_apply]
  revert first
  generalize x s = xs
  generalize x t = xt
  intro first
  cases first with
  | ok a hrel => exact .ok a (hle _ _ hrel)
  | error e hrel => exact hh e _ _ hrel

@[simp] theorem relates_ite {c : Prop} [Decidable c] {x y : EStateM ε σ α}
    (hx : c → Relates p q x) (hy : ¬ c → Relates p q y) : Relates p q (if c then x else y) := by
  split
  · exact hx ‹_›
  · exact hy ‹_›

theorem relates_guard {c : Prop} [Decidable c] {a : α} {x : EStateM ε σ α}
    (hx : ¬ c → Relates p p x) : Relates p p (if c then pure a else x) :=
  relates_ite (fun _ => relates_pure a) hx

theorem relates_when {c : Prop} [Decidable c] {a : α} {x : EStateM ε σ α}
    (hx : c → Relates p p x) : Relates p p (if c then x else pure a) :=
  relates_ite hx fun _ => relates_pure a

theorem relates_modify {f : σ → σ} (h : ∀ s t, p s t → q (f s) (f t)) :
    Relates p q (modify f : EStateM ε σ PUnit) := by
  intro s t hst
  rw [modify_apply, modify_apply]
  exact .ok _ (h s t hst)

/-- A program that only reads what does not depend on the state. -/
theorem Reads.relates {x : EStateM ε σ α} (h : Reads x) : Relates p p x := by
  obtain ⟨outcome, hx⟩ := h
  intro s t hst
  rw [hx s, hx t]
  cases outcome with
  | ok a => exact .ok a hst
  | error e => exact .error e hst

end Grid0Relay.Lib.Exec
