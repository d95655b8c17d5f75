import Mathlib.Data.List.Basic

/-!
# Reading string literals

A literal between quotes with backslash escapes, of characters or of bytes. What differs
from one language to another are the characters that may stand for themselves and what an
escape may be. A writer that escapes the quotes only is read back exactly when nothing
else needed an escape.
-/

namespace Grid0Relay.Lib

/-- The string literals of a language. -/
structure Literal (α : Type) where
  quote : α
  backslash : α
  distinct : quote ≠ backslash
  /-- This character may stand for itself. -/
  admits : α → Bool
  /-- What an escape stands for, from the text behind its backslash. -/
  unescape : List α → Option (List α × List α)
  /-- An escape takes at least one character. -/
  shorter : ∀ {text out rest}, unescape text = some (out, rest) → rest.length < text.length

namespace Literal

variable {α : Type} [DecidableEq α]

/-- Escapes of one character. -/
def ofTable (quote backslash : α) (distinct : quote ≠ backslash) (admits : α → Bool)
    (table : α → Option α) : Literal α where
  quote := quote
  backslash := backslash
  distinct := distinct
  admits := admits
  unescape
    | [] => none
    | c :: rest => (table c).map fun c => ([c], rest)
  shorter := by
    intro text out rest h
    cases text with
    | nil => cases h
    | cons c' text =>
      obtain ⟨_, _, hpair⟩ := Option.map_eq_some_iff.mp h
      obtain ⟨_, rfl⟩ := Prod.mk.inj hpair
      exact Nat.lt_succ_self _

/-- The string literals of AppleScript. -/
def appleScript : Literal Char :=
  ofTable '\x22' '\x5c' (by decide) (fun _ => true) fun c =>
    if c = '\x5c' ∨ c = '\x22' then some c
    else if c = 'n' then some '\n'
    else if c = 'r' then some '\r'
    else if c = 't' then some '\t'
    else none

variable (L : Literal α)

/-- The rest of a literal behind its opening quote: its value, and what follows it. -/
def body : List α → Option (List α × List α)
  | [] => none
  | c :: text =>
    if c = L.quote then some ([], text)
    else if c = L.backslash then
      match h : L.unescape text with
      | none => none
      | some (out, rest) =>
        have := L.shorter h
        (body rest).map fun (value, rest) => (out ++ value, rest)
    else if L.admits c then (body text).map fun (value, rest) => (c :: value, rest)
    else none
termination_by text => text.length

/-- A literal at the beginning of a text, and what follows it. -/
def read : List α → Option (List α × List α)
  | [] => none
  | c :: text => if c = L.quote then L.body text else none

variable {L}

@[simp] theorem body_nil : L.body [] = none := by rw [body]

@[simp] theorem body_quote (text : List α) : L.body (L.quote :: text) = some ([], text) := by
  rw [body, if_pos rfl]

theorem body_escape {text out rest : List α} (h : L.unescape text = some (out, rest)) :
    L.body (L.backslash :: text) =
      (L.body rest).map fun (value, rest) => (out ++ value, rest) := by
  rw [body, if_neg L.distinct.symm, if_pos rfl]
  split
  · next hnone => rw [h] at hnone; cases hnone
  · next out' rest' hsome =>
      obtain ⟨rfl, rfl⟩ := Prod.mk.inj (Option.some.inj (h.symm.trans hsome))
      rfl

theorem body_escape_none {text : List α} (h : L.unescape text = none) :
    L.body (L.backslash :: text) = none := by
  rw [body, if_neg L.distinct.symm, if_pos rfl]
  split
  · rfl
  · next hsome => rw [h] at hsome; cases hsome

/-- An escape of one character for another. -/
theorem body_escape_one {c out : α} {text : List α} (h : L.unescape (c :: text) = some ([out], text)) :
    L.body (L.backslash :: c :: text) =
      (L.body text).map fun (value, rest) => (out :: value, rest) := body_escape h

/-- Every other character that the language admits is itself. -/
theorem body_self {c : α} (hquote : c ≠ L.quote) (hbackslash : c ≠ L.backslash) (text : List α) :
    L.body (c :: text) =
      if L.admits c then (L.body text).map fun (value, rest) => (c :: value, rest) else none := by
  rw [body, if_neg hquote, if_neg hbackslash]

/-- A text each of whose characters is written as something the literal reads as it. -/
theorem body_flatMap {write : α → List α} {value : List α}
    (h : ∀ c ∈ value, ∀ text, L.body (write c ++ text) =
      (L.body text).map fun (value, rest) => (c :: value, rest)) (rest : List α) :
    L.body (value.flatMap write ++ L.quote :: rest) = some (value, rest) := by
  induction value with
  | nil => simp
  | cons c value ih =>
    rw [List.flatMap_cons, List.append_assoc, h c List.mem_cons_self,
      ih fun c hc => h c (List.mem_cons_of_mem _ hc)]
    rfl

/-! ## A writer that escapes the quotes only -/

variable (L)

def write (value : List α) : List α :=
  value.flatMap fun c => if c = L.quote then [L.backslash, L.quote] else [c]

/-- No escape is needed but that of the quote. -/
def Verbatim (c : α) : Prop := c ≠ L.backslash ∧ (c = L.quote ∨ L.admits c = true)

instance (c : α) : Decidable (L.Verbatim c) :=
  inferInstanceAs (Decidable (c ≠ L.backslash ∧ (c = L.quote ∨ L.admits c = true)))

/-- An escape is longer than what it stands for, and only that of the quote has a quote. -/
def Thrifty : Prop :=
  ∀ {text out rest}, L.unescape text = some (out, rest) → ∃ taken, text = taken ++ rest ∧
    (taken = [L.quote] ∧ out = [L.quote] ∨ out.length + taken.count L.quote ≤ taken.length)

/-- This character cannot stand in a literal. -/
structure Forbids (c : α) : Prop where
  quote : c ≠ L.quote
  backslash : c ≠ L.backslash
  itself : L.admits c = false
  escape : ∀ {taken out rest}, L.unescape (taken ++ rest) = some (out, rest) → c ∉ taken

/-- Where there is none of it, nothing is replaced. -/
theorem flatMap_notMem {q : α} {value : List α} (h : q ∉ value) (dst : List α) :
    (value.flatMap fun c => if c = q then dst else [c]) = value := by
  have hone : ∀ c ∈ value, (if c = q then dst else [c]) = [c] := by
    intro c hc
    have hne : c ≠ q := by
      rintro rfl
      exact h hc
    exact if_neg hne
  rw [List.flatMap_congr hone, List.flatMap_singleton']

variable {L}

@[simp] theorem write_nil : L.write [] = [] := rfl

theorem write_quote (value : List α) :
    L.write (L.quote :: value) = L.backslash :: L.quote :: L.write value := by
  simp [write]

theorem write_self {c : α} (h : c ≠ L.quote) (value : List α) :
    L.write (c :: value) = c :: L.write value := by
  simp [write, h]

theorem length_write (value : List α) :
    (L.write value).length = value.length + value.count L.quote := by
  induction value with
  | nil => rfl
  | cons c value ih =>
    by_cases hc : c = L.quote
    · subst hc
      simp only [write_quote, List.length_cons, ih, List.count_cons_self]
      omega
    · simp only [write_self hc, List.length_cons, ih, List.count_cons_of_ne hc]
      omega

theorem count_write (value : List α) :
    (L.write value).count L.quote = value.count L.quote := by
  induction value with
  | nil => rfl
  | cons c value ih =>
    by_cases hc : c = L.quote
    · subst hc
      rw [write_quote, List.count_cons_of_ne L.distinct.symm, List.count_cons_self,
        List.count_cons_self, ih]
    · rw [write_self hc, List.count_cons_of_ne hc, List.count_cons_of_ne hc, ih]

theorem write_append (value more : List α) :
    L.write (value ++ more) = L.write value ++ L.write more := by
  simp [write]

/-- What is in front of a quote that was written ends with a backslash. -/
theorem write_split {value used rest : List α} (h : L.write value = used ++ L.quote :: rest) :
    ∃ front back, value = front ++ L.quote :: back ∧ used = L.write front ++ [L.backslash] := by
  induction value generalizing used with
  | nil => simp at h
  | cons c value ih =>
    by_cases hc : c = L.quote
    · subst hc
      rw [write_quote] at h
      rcases used with _ | ⟨b, _ | ⟨q, used⟩⟩
      · exact absurd (List.cons.inj h).1 L.distinct.symm
      · obtain ⟨rfl, -⟩ := List.cons.inj h
        exact ⟨[], value, rfl, rfl⟩
      · obtain ⟨rfl, htail⟩ := List.cons.inj h
        obtain ⟨rfl, hrest⟩ := List.cons.inj htail
        obtain ⟨front, back, rfl, rfl⟩ := ih hrest
        exact ⟨L.quote :: front, back, rfl, by rw [write_quote]; rfl⟩
    · rw [write_self hc] at h
      cases used with
      | nil => exact absurd (List.cons.inj h).1 hc
      | cons b used =>
        obtain ⟨rfl, hrest⟩ := List.cons.inj h
        obtain ⟨front, back, rfl, rfl⟩ := ih hrest
        exact ⟨c :: front, back, rfl, by rw [write_self hc]; rfl⟩

/-- What a literal takes of the text: never less than its value and the quotes in it, and if
no more, it is what the writer writes. -/
structure Takes (L : Literal α) (text value rest used : List α) : Prop where
  split : text = used ++ L.quote :: rest
  allowed : ∀ c, L.Forbids c → c ∉ used
  cost : value.length + used.count L.quote ≤ used.length
  tight : used.length ≤ value.length + used.count L.quote →
    (∀ c ∈ value, L.Verbatim c) ∧ used = L.write value

theorem Takes.escape (thrifty : L.Thrifty) {text out mid value rest used : List α}
    (hescape : L.unescape text = some (out, mid)) (h : Takes L mid value rest used) :
    ∃ taken, Takes L (L.backslash :: text) (out ++ value) rest (L.backslash :: taken ++ used) := by
  obtain ⟨taken, rfl, hcost⟩ := thrifty hescape
  have hcount : (L.backslash :: taken ++ used).count L.quote =
      taken.count L.quote + used.count L.quote := by
    rw [List.count_append, List.count_cons_of_ne L.distinct.symm]
  have hcost' := h.cost
  refine ⟨taken, ?_, ?_, ?_, ?_⟩
  · simp [h.split]
  · intro c hc
    simp only [List.cons_append, List.mem_cons, List.mem_append, not_or]
    exact ⟨hc.backslash, hc.escape hescape, h.allowed c hc⟩
  · simp only [hcount, List.length_append, List.length_cons]
    rcases hcost with ⟨rfl, rfl⟩ | hcost
    · simp only [List.count_singleton_self, List.length_singleton]
      omega
    · omega
  · simp only [hcount, List.length_append, List.length_cons]
    intro htight
    rcases hcost with ⟨rfl, rfl⟩ | hcost
    · simp only [List.count_singleton_self, List.length_singleton] at htight
      obtain ⟨hverbatim, rfl⟩ := h.tight (by omega)
      refine ⟨?_, (write_quote value).symm⟩
      intro c hc
      rcases List.mem_cons.mp hc with rfl | hc
      · exact ⟨L.distinct, Or.inl rfl⟩
      · exact hverbatim c hc
    · omega

theorem Takes.itself {c : α} (hquote : c ≠ L.quote) (hbackslash : c ≠ L.backslash)
    (hadmits : L.admits c = true) {text value rest used : List α}
    (h : Takes L text value rest used) : Takes L (c :: text) (c :: value) rest (c :: used) := by
  have hcost := h.cost
  refine ⟨?_, ?_, ?_, ?_⟩
  · rw [h.split]
    rfl
  · intro c' hc'
    rw [List.mem_cons, not_or]
    refine ⟨?_, h.allowed c' hc'⟩
    rintro rfl
    rw [hc'.itself] at hadmits
    cases hadmits
  · rw [List.count_cons_of_ne hquote, List.length_cons, List.length_cons]
    omega
  · rw [List.count_cons_of_ne hquote, List.length_cons, List.length_cons]
    intro htight
    obtain ⟨hverbatim, rfl⟩ := h.tight (by omega)
    refine ⟨?_, (write_self hquote value).symm⟩
    intro c' hc'
    rcases List.mem_cons.mp hc' with rfl | hc'
    · exact ⟨hbackslash, Or.inr hadmits⟩
    · exact hverbatim c' hc'

theorem body_takes (thrifty : L.Thrifty) {text value rest : List α}
    (h : L.body text = some (value, rest)) : ∃ used, Takes L text value rest used := by
  induction hlen : text.length using Nat.strongRecOn generalizing text value with
  | ind n ih =>
    subst hlen
    cases text with
    | nil => simp at h
    | cons c text =>
      by_cases hquote : c = L.quote
      · subst hquote
        rw [body_quote] at h
        obtain ⟨rfl, rfl⟩ := Prod.mk.inj (Option.some.inj h)
        exact ⟨[], rfl, by simp, by simp, fun _ => ⟨by simp, rfl⟩⟩
      by_cases hbackslash : c = L.backslash
      · subst hbackslash
        cases hescape : L.unescape text with
        | none =>
          rw [body_escape_none hescape] at h
          cases h
        | some pair =>
          obtain ⟨out, mid⟩ := pair
          rw [body_escape hescape] at h
          obtain ⟨⟨value', rest'⟩, hbody, hpair⟩ := Option.map_eq_some_iff.mp h
          obtain ⟨rfl, rfl⟩ := Prod.mk.inj hpair
          have hless := L.shorter hescape
          obtain ⟨used, htakes⟩ := ih mid.length (Nat.lt_succ_of_lt hless) hbody rfl
          obtain ⟨taken, htakes'⟩ := htakes.escape thrifty hescape
          exact ⟨_, htakes'⟩
      · rw [body_self hquote hbackslash] at h
        split at h
        · next hadmits =>
            obtain ⟨⟨value', rest'⟩, hbody, hpair⟩ := Option.map_eq_some_iff.mp h
            obtain ⟨rfl, rfl⟩ := Prod.mk.inj hpair
            obtain ⟨used, htakes⟩ := ih text.length (Nat.lt_succ_self _) hbody rfl
            exact ⟨_, htakes.itself hquote hbackslash hadmits⟩
        · cases h

/-- A value that is written verbatim is read back, and no other is, when what follows has no
quote that the literal could still reach. -/
theorem body_write_iff (thrifty : L.Thrifty) {tail : List α}
    (hescape : ∀ text, L.unescape (L.quote :: text) = some ([L.quote], text))
    (htail : ∀ used rest, tail = used ++ L.quote :: rest → ∃ c ∈ used, L.Forbids c)
    (value rest : List α) :
    L.body (L.write value ++ L.quote :: tail) = some (value, rest) ↔
      (∀ c ∈ value, L.Verbatim c) ∧ rest = tail := by
  constructor
  · intro h
    obtain ⟨used, htakes⟩ := body_takes thrifty h
    have hlength := length_write (L := L) value
    have hcost := htakes.cost
    rcases List.append_eq_append_iff.mp htakes.split with ⟨more, hused, hmore⟩ | ⟨more, hwrite, hmore⟩
    · cases more with
      | nil =>
        rw [List.append_nil] at hused
        subst hused
        obtain ⟨hverbatim, -⟩ := htakes.tight (by rw [count_write]; omega)
        exact ⟨hverbatim, (List.cons.inj hmore).2.symm⟩
      | cons q more =>
        -- the closing quote was taken for part of an escape
        obtain ⟨rfl, htail'⟩ := List.cons.inj hmore
        obtain ⟨c, hc, hforbids⟩ := htail more rest htail'
        exact absurd (by rw [hused]; simp [hc]) (htakes.allowed c hforbids)
    · cases more with
      | nil =>
        rw [List.append_nil] at hwrite
        subst hwrite
        obtain ⟨hverbatim, -⟩ := htakes.tight (by rw [count_write]; omega)
        exact ⟨hverbatim, (List.cons.inj hmore).2⟩
      | cons q more =>
        -- the literal ended at a quote of the value
        obtain ⟨rfl, -⟩ := List.cons.inj hmore
        obtain ⟨front, back, rfl, rfl⟩ := write_split hwrite
        have hfront := length_write (L := L) front
        simp only [List.count_append, count_write, List.length_append, List.length_cons,
          List.length_nil, List.count_cons_of_ne L.distinct.symm, List.count_nil] at hcost
        obtain ⟨-, hwritten⟩ := htakes.tight (by
          simp only [List.count_append, count_write, List.length_append, List.length_cons,
            List.length_nil, List.count_cons_of_ne L.distinct.symm, List.count_nil]
          omega)
        have hlengths := congrArg List.length hwritten
        rw [write_append, write_quote] at hlengths
        simp only [List.length_append, List.length_cons, List.length_nil] at hlengths
        omega
  · rintro ⟨hverbatim, rfl⟩
    refine body_flatMap ?_ rest
    intro c hc text
    obtain ⟨hbackslash, hself⟩ := hverbatim c hc
    by_cases hquote : c = L.quote
    · subst hquote
      rw [if_pos rfl]
      exact body_escape (hescape text)
    · rw [if_neg hquote, List.singleton_append, body_self hquote hbackslash,
        if_pos (hself.resolve_left hquote)]

end Literal

end Grid0Relay.Lib
