import Mathlib.Data.List.Basic

/-!
# Elections by first evidence

A stream of messages elects a key: the first acceptable message fixes the key and
a provisional value, and the first firm message for that key fixes the value for
good. `run_eq` says what a whole stream elects without running it, and the two
stability results are read off it.
-/

namespace Grid0Relay.Lib.Election

variable {μ κ ν : Type} [DecidableEq κ]

/-- How a message is read. -/
structure Rules (μ κ ν : Type) where
  accepts : μ → Bool
  firm : μ → Bool
  key : μ → κ
  value : μ → ν

/-- What has been elected so far. -/
structure Elected (κ ν : Type) where
  key : κ
  value : ν
  firm : Bool

variable (r : Rules μ κ ν)

/-- A firm acceptable message for `k`. -/
def Rules.confirms (k : κ) (m : μ) : Bool := r.accepts m && decide (r.key m = k) && r.firm m

def step : Option (Elected κ ν) → μ → Option (Elected κ ν)
  | none, m => if r.accepts m then some ⟨r.key m, r.value m, r.firm m⟩ else none
  | some e, m => if !e.firm && r.confirms e.key m then some ⟨e.key, r.value m, true⟩ else some e

def run (e : Option (Elected κ ν)) (ms : List μ) : Option (Elected κ ν) := ms.foldl (step r) e

/-! ## After the first election -/

theorem run_firm (e : Elected κ ν) (h : e.firm = true) (ms : List μ) :
    run r (some e) ms = some e := by
  induction ms with
  | nil => rfl
  | cons m rest ih =>
    have hstep : step r (some e) m = some e := by simp [step, h]
    rw [run, List.foldl_cons, hstep]
    exact ih

/-- A provisional value waits for the first confirmation. -/
theorem run_provisional (k : κ) (v : ν) (ms : List μ) :
    run r (some ⟨k, v, false⟩) ms =
      some (match ms.find? (r.confirms k) with
        | none => ⟨k, v, false⟩
        | some g => ⟨k, r.value g, true⟩) := by
  induction ms with
  | nil => rfl
  | cons m rest ih =>
    rw [run, List.foldl_cons]
    cases hm : r.confirms k m with
    | true =>
      have hstep : step r (some ⟨k, v, false⟩) m = some ⟨k, r.value m, true⟩ := by
        simp [step, hm]
      rw [hstep, List.find?_cons_of_pos hm]
      exact run_firm r _ rfl rest
    | false =>
      have hstep : step r (some ⟨k, v, false⟩) m = some ⟨k, v, false⟩ := by simp [step, hm]
      rw [hstep, List.find?_cons_of_neg (by simp [hm])]
      exact ih

/-- The key is elected once. -/
theorem run_key (e : Elected κ ν) (ms : List μ) :
    ∃ e', run r (some e) ms = some e' ∧ e'.key = e.key := by
  obtain ⟨k, v, firm⟩ := e
  cases firm with
  | true => exact ⟨_, run_firm r _ rfl ms, rfl⟩
  | false =>
    rw [run_provisional]
    refine ⟨_, rfl, ?_⟩
    split <;> rfl

/-- The value changes at most once: a run that changed it has made it firm. -/
theorem run_value_firm (e e' : Elected κ ν) (ms : List μ) (h : run r (some e) ms = some e')
    (changed : e'.value ≠ e.value) : e'.firm = true := by
  obtain ⟨k, v, firm⟩ := e
  cases firm with
  | true =>
    rw [run_firm r _ rfl, Option.some.injEq] at h
    exact h ▸ rfl
  | false =>
    rw [run_provisional, Option.some.injEq] at h
    subst h
    cases hfind : ms.find? (r.confirms k) with
    | none => simp [hfind] at changed
    | some g => rfl

/-! ## From the start -/

/-- What a whole stream elects. -/
theorem run_eq (ms : List μ) :
    run r none ms =
      match ms.find? r.accepts with
      | none => none
      | some f => some (match ms.find? (r.confirms (r.key f)) with
          | none => ⟨r.key f, r.value f, false⟩
          | some g => ⟨r.key f, r.value g, true⟩) := by
  induction ms with
  | nil => rfl
  | cons m rest ih =>
    rw [run, List.foldl_cons]
    cases hm : r.accepts m with
    | false =>
      -- a message that is not acceptable confirms nothing either
      have hno : ∀ k, r.confirms k m = false := fun k => by simp [Rules.confirms, hm]
      have hstep : step r none m = none := by simp [step, hm]
      rw [hstep, List.find?_cons_of_neg (by simp [hm])]
      refine ih.trans ?_
      cases rest.find? r.accepts with
      | none => rfl
      | some f => simp only [List.find?_cons, hno]
    | true =>
      have hstep : step r none m = some ⟨r.key m, r.value m, r.firm m⟩ := by simp [step, hm]
      have hself : r.confirms (r.key m) m = r.firm m := by simp [Rules.confirms, hm]
      rw [hstep, List.find?_cons_of_pos hm]
      cases hfirm : r.firm m with
      | true =>
        rw [hfirm] at hself
        simp only [List.find?_cons, hself]
        exact run_firm r _ rfl rest
      | false =>
        rw [hfirm] at hself
        simp only [List.find?_cons, hself]
        exact run_provisional r _ _ rest

end Grid0Relay.Lib.Election
