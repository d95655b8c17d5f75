import Grid0Relay.Lib.Slots

/-!
# Slot caches with expiry

A cache is a list of slots, each with a key and an expiry time. A store overwrites the
first slot that is blank, holds the same key or has run out; a lookup takes the first
unexpired slot of its key. One key may then sit in several slots at once.

`Tracks` relates such a cache to the map that remembers, for every key, what was stored
for it last: while that is unexpired it sits in the first slot of its key, and no other
slot of the key outlives it. So a lookup answers as the map does (`Tracks.lookup`).
-/

namespace Grid0Relay.Lib.Expiry

open Slots

variable {α κ : Type} [BEq κ] (key : α → κ) (expiry : α → Nat) (blank : κ)

/-- An unexpired slot of the key. -/
def live (k : κ) (now : Nat) (a : α) : Bool := key a == k && decide (expiry a > now)

/-- A slot that may be overwritten by the key. -/
def reusable (k : κ) (now : Nat) (a : α) : Bool :=
  key a == blank || key a == k || decide (expiry a < now)

/-- The map a cache stands for: what was stored for a key last. -/
abbrev LastStored (α κ : Type) := κ → Option α

def LastStored.store (m : LastStored α κ) (a : α) : LastStored α κ :=
  fun k => if key a == k then some a else m k

/-- The cache `l`, last written at `now` or before, holds what the map remembers. -/
structure Tracks (ttl : Nat) (m : LastStored α κ) (now : Nat) (l : List α) : Prop where
  first : ∀ k b, k ≠ blank → m k = some b → now < expiry b → l.find? (key · == k) = some b
  bound : ∀ a ∈ l, key a ≠ blank → ∃ b, m (key a) = some b ∧ expiry a ≤ expiry b
  fresh : ∀ k b, m k = some b → expiry b ≤ now + ttl

namespace Tracks

variable {key expiry blank} {ttl now : Nat} {m : LastStored α κ} {l : List α}

/-- Before anything is stored. -/
theorem init (h : ∀ a ∈ l, key a = blank) :
    Tracks key expiry blank ttl (fun _ => none) now l where
  first _ _ _ hnone := by cases hnone
  bound a ha hkey := absurd (h a ha) hkey
  fresh _ _ hnone := by cases hnone

theorem mono (h : Tracks key expiry blank ttl m now l) {later : Nat} (hle : now ≤ later) :
    Tracks key expiry blank ttl m later l where
  first k b hk hm hlive := h.first k b hk hm (Nat.lt_of_le_of_lt hle hlive)
  bound := h.bound
  fresh k b hm := Nat.le_trans (h.fresh k b hm) (Nat.add_le_add_right hle ttl)

variable [LawfulBEq κ]

theorem store_self (m : LastStored α κ) (a : α) : m.store key a (key a) = some a :=
  if_pos (beq_self_eq_true _)

theorem store_other (m : LastStored α κ) {a : α} {k : κ} (h : key a ≠ k) :
    m.store key a k = m k := if_neg (by simpa using h)

/-- A lookup finds what was stored last, while it lasts. -/
theorem lookup (h : Tracks key expiry blank ttl m now l) {k : κ} (hk : k ≠ blank) {t : Nat}
    (ht : now ≤ t) : l.find? (live key expiry k t) = (m k).filter fun b => decide (t < expiry b) := by
  -- a live slot of the key outlives nothing that was stored later
  have hbound : ∀ a ∈ l, live key expiry k t a = true → ∃ b, m k = some b ∧ t < expiry b := by
    intro a ha hlive
    obtain ⟨hkey, hexpiry⟩ : key a = k ∧ t < expiry a := by simpa [live] using hlive
    obtain ⟨b, hm, hle⟩ := h.bound a ha (hkey ▸ hk)
    exact ⟨b, hkey ▸ hm, Nat.lt_of_lt_of_le hexpiry hle⟩
  cases hm : m k with
  | none =>
    refine List.find?_eq_none.mpr fun a ha hlive => ?_
    obtain ⟨b, hb, -⟩ := hbound a ha hlive
    rw [hm] at hb
    cases hb
  | some b =>
    by_cases hlive : t < expiry b
    · rw [Option.filter_some_pos (by simpa using hlive)]
      have hfirst := h.first k b hk hm (Nat.lt_of_le_of_lt ht hlive)
      obtain ⟨hkey, pre, post, hl, hpre⟩ := List.find?_eq_some_iff_append.mp hfirst
      refine List.find?_eq_some_iff_append.mpr ⟨?_, pre, post, hl, ?_⟩
      · simpa [live, hlive] using hkey
      · intro a ha
        have hother := hpre a ha
        simp only [Bool.not_eq_eq_eq_not, Bool.not_true] at hother
        simp [live, hother]
    · rw [Option.filter_some_neg (by simpa using hlive)]
      refine List.find?_eq_none.mpr fun a ha halive => ?_
      obtain ⟨b', hb', hlater⟩ := hbound a ha halive
      rw [hm, Option.some.injEq] at hb'
      subst hb'
      exact hlive hlater

/-- A store that finds a slot is remembered, and touches no other key. -/
theorem store (h : Tracks key expiry blank ttl m now l) {a : α} {now' : Nat} {l' : List α}
    (hnow : now ≤ now') (hexpiry : expiry a = now' + ttl)
    (hstore : replaceFirst (reusable key expiry blank (key a) now') a l = some l') :
    Tracks key expiry blank ttl (m.store key a) now' l' := by
  have hfresh : ∀ k b, m k = some b → expiry b ≤ expiry a := by
    intro k b hm
    rw [hexpiry]
    exact Nat.le_trans (h.fresh k b hm) (Nat.add_le_add_right hnow ttl)
  obtain ⟨pre, c, post, rfl, rfl, hc, hpre⟩ := replaceFirst_some hstore
  have hpreKey : ∀ b ∈ pre, key b ≠ key a := by
    intro b hb hkey
    have hno := hpre b hb
    simp [reusable, hkey] at hno
  constructor
  case first =>
    intro k b hk hm hlive
    by_cases hka : key a = k
    · subst hka
      rw [store_self, Option.some.injEq] at hm
      subst hm
      refine List.find?_eq_some_iff_append.mpr ⟨beq_self_eq_true _, pre, post, rfl, ?_⟩
      intro b' hb'
      simpa using hpreKey b' hb'
    · rw [store_other m hka] at hm
      have hfirst := h.first k b hk hm (Nat.lt_of_le_of_lt hnow hlive)
      have haKey : (key a == k) = false := by simpa using hka
      rw [List.find?_append] at hfirst ⊢
      cases hfind : pre.find? (key · == k) with
      | some b' => simpa [hfind] using hfirst
      | none =>
        rw [hfind, Option.none_or] at hfirst
        rw [Option.none_or]
        simp only [List.find?_cons, haKey]
        cases hcKey : key c == k with
        | true =>
          -- the slot that is overwritten is not the unexpired one of `k`
          simp only [List.find?_cons, hcKey, Option.some.injEq] at hfirst
          subst hfirst
          have hck : key c = k := by simpa using hcKey
          simp only [reusable, hck, Bool.or_eq_true, beq_iff_eq, decide_eq_true_eq] at hc
          rcases hc with (hblank | hsame) | hold
          · exact absurd hblank hk
          · exact absurd hsame.symm hka
          · omega
        | false => simpa only [List.find?_cons, hcKey] using hfirst
  case bound =>
    intro b hb hkey
    rcases mem_replaceFirst hstore hb with rfl | hold
    · exact ⟨b, store_self m b, Nat.le_refl _⟩
    · obtain ⟨b', hm, hle⟩ := h.bound b hold hkey
      by_cases hka : key a = key b
      · exact ⟨a, hka ▸ store_self m a, Nat.le_trans hle (hfresh _ _ hm)⟩
      · exact ⟨b', (store_other m hka).trans hm, hle⟩
  case fresh =>
    intro k b hm
    rw [LastStored.store] at hm
    split at hm
    · rw [Option.some.injEq] at hm
      exact Nat.le_of_eq (hm ▸ hexpiry)
    · exact Nat.le_trans (h.fresh k b hm) (Nat.add_le_add_right hnow ttl)

end Tracks

end Grid0Relay.Lib.Expiry
