import Mathlib.Data.List.Nodup
import Mathlib.Data.List.Basic

/-!
# Maps that keep the order of insertion

A map as a list of entries with distinct keys. Setting a key that is present leaves
it where it stands, a new key goes to the end. What the operations do is said by
membership, so that no proof about a map unfolds them.
-/

namespace Grid0Relay.Lib

structure OrderedMap (κ β : Type) where
  entries : List (κ × β)
  nodup : (entries.map Prod.fst).Nodup

namespace OrderedMap

variable {κ β : Type} [DecidableEq κ]

def empty : OrderedMap κ β := ⟨[], List.nodup_nil⟩

def get? (m : OrderedMap κ β) (k : κ) : Option β := (m.entries.find? (·.1 = k)).map (·.2)

theorem get?_eq_some {m : OrderedMap κ β} {k : κ} {v : β} :
    m.get? k = some v ↔ (k, v) ∈ m.entries := by
  constructor
  · intro h
    obtain ⟨⟨j, w⟩, hfind, rfl⟩ := Option.map_eq_some_iff.mp h
    have hkey : j = k := by simpa using List.find?_some hfind
    subst hkey
    exact List.mem_of_find?_eq_some hfind
  · intro hmem
    cases hfind : m.entries.find? (·.1 = k) with
    | none => simpa using List.find?_eq_none.mp hfind _ hmem
    | some e =>
      have hkey : e.1 = k := by simpa using List.find?_some hfind
      have heq : e = (k, v) := List.inj_on_of_nodup_map m.nodup
        (List.mem_of_find?_eq_some hfind) hmem hkey
      rw [get?, hfind, heq]
      rfl

/-- Replace the value of a key that is present. -/
def replace (k : κ) (v : β) (e : κ × β) : κ × β := if e.1 = k then (k, v) else e

theorem replace_fst (k : κ) (v : β) (e : κ × β) : (replace k v e).1 = e.1 := by
  unfold replace
  split
  · exact Eq.symm ‹_›
  · rfl

def set (m : OrderedMap κ β) (k : κ) (v : β) : OrderedMap κ β :=
  if h : k ∈ m.entries.map Prod.fst then
    ⟨m.entries.map (replace k v), by
      rw [List.map_map]
      exact (List.map_congr_left fun e _ => replace_fst k v e) ▸ m.nodup⟩
  else
    ⟨m.entries ++ [(k, v)], by
      rw [List.map_append]
      exact List.Nodup.append m.nodup (List.nodup_singleton k) (by simpa using h)⟩

theorem mem_set {m : OrderedMap κ β} {k j : κ} {v w : β} :
    (j, w) ∈ (m.set k v).entries ↔ (j = k ∧ w = v) ∨ (j ≠ k ∧ (j, w) ∈ m.entries) := by
  unfold set
  split
  case isTrue hmem =>
    rw [List.mem_map]
    constructor
    · rintro ⟨e, he, heq⟩
      unfold replace at heq
      split at heq
      · cases heq
        exact Or.inl ⟨rfl, rfl⟩
      · subst heq
        exact Or.inr ⟨‹_›, he⟩
    · rintro (⟨rfl, rfl⟩ | ⟨hne, he⟩)
      · obtain ⟨e, he, rfl⟩ := List.mem_map.mp hmem
        exact ⟨e, he, if_pos rfl⟩
      · exact ⟨(j, w), he, if_neg hne⟩
  case isFalse hnew =>
    rw [List.mem_append, List.mem_singleton, Prod.mk.injEq]
    constructor
    · rintro (he | hself)
      · refine Or.inr ⟨?_, he⟩
        rintro rfl
        exact hnew (List.mem_map.mpr ⟨_, he, rfl⟩)
      · exact Or.inl hself
    · rintro (hself | ⟨-, he⟩)
      · exact Or.inr hself
      · exact Or.inl he

theorem get?_set_self (m : OrderedMap κ β) (k : κ) (v : β) : (m.set k v).get? k = some v :=
  get?_eq_some.mpr (mem_set.mpr (Or.inl ⟨rfl, rfl⟩))

theorem get?_set_of_ne (m : OrderedMap κ β) {k j : κ} (h : j ≠ k) (v : β) :
    (m.set k v).get? j = m.get? j := by
  refine Option.ext fun w => ?_
  rw [get?_eq_some, get?_eq_some, mem_set]
  simp [h]

def filter (m : OrderedMap κ β) (p : κ → β → Bool) : OrderedMap κ β :=
  ⟨m.entries.filter fun e => p e.1 e.2, m.nodup.sublist (List.filter_sublist.map _)⟩

omit [DecidableEq κ] in
theorem mem_filter {m : OrderedMap κ β} {p : κ → β → Bool} {j : κ} {w : β} :
    (j, w) ∈ (m.filter p).entries ↔ (j, w) ∈ m.entries ∧ p j w = true := by
  simp [filter]

def delete (m : OrderedMap κ β) (k : κ) : OrderedMap κ β := m.filter fun j _ => decide (j ≠ k)

end OrderedMap

end Grid0Relay.Lib
