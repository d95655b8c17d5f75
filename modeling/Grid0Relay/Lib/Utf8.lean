import Grid0Relay.Lib.Bytes

/-!
# Texts as bytes

Bytes that are the UTF-8 encoding of some text. A byte below 128 is a character of its own
wherever it stands, so such a text may be cut there.
-/

namespace Grid0Relay.Lib

/-- The bytes encode a text. -/
def Utf8 (bytes : Bytes) : Prop := ∃ text : List Char, text.flatMap String.utf8EncodeChar = bytes

theorem length_utf8EncodeChar_le (c : Char) : (String.utf8EncodeChar c).length ≤ 4 := by
  unfold String.utf8EncodeChar
  dsimp only
  split_ifs <;> simp

/-- A byte below 128 is not part of a longer character. -/
theorem utf8EncodeChar_ascii {c : Char} {b : UInt8} (h : b ∈ String.utf8EncodeChar c)
    (hb : b < 128) : String.utf8EncodeChar c = [b] := by
  have hlow : b.toNat < 128 := UInt8.lt_iff_toNat_lt.mp hb
  have hhigh : ∀ n, 128 ≤ n → n < 256 → b ≠ UInt8.ofNat n := by
    rintro n hle hlt rfl
    rw [UInt8.toNat_ofNat', Nat.mod_eq_of_lt hlt] at hlow
    omega
  revert h
  unfold String.utf8EncodeChar
  dsimp only
  split_ifs with h₁ h₂ h₃
  · intro h
    rw [List.mem_singleton.mp h]
  all_goals
    intro h
    simp only [List.mem_cons, List.not_mem_nil, or_false] at h
    exfalso
  · rcases h with h | h
    · exact hhigh _ (by omega) (by omega) h
    · exact hhigh _ (by omega) (by omega) h
  · rcases h with h | h | h
    · exact hhigh _ (by omega) (by omega) h
    · exact hhigh _ (by omega) (by omega) h
    · exact hhigh _ (by omega) (by omega) h
  · rcases h with h | h | h | h
    · exact hhigh _ (by omega) (by omega) h
    · exact hhigh _ (by omega) (by omega) h
    · exact hhigh _ (by omega) (by omega) h
    · exact hhigh _ (by omega) (by omega) h

theorem utf8_nil : Utf8 [] := ⟨[], rfl⟩

theorem Utf8.append {a b : Bytes} (ha : Utf8 a) (hb : Utf8 b) : Utf8 (a ++ b) := by
  obtain ⟨s, rfl⟩ := ha
  obtain ⟨t, rfl⟩ := hb
  exact ⟨s ++ t, List.flatMap_append⟩

theorem utf8_singleton {b : UInt8} (hb : b < 128) : Utf8 [b] := by
  have hlow : b.toNat < 128 := UInt8.lt_iff_toNat_lt.mp hb
  have hval : (Char.ofNat b.toNat).val.toNat = b.toNat := by
    have hvalid : b.toNat.isValidChar := Or.inl (by omega)
    rw [Char.ofNat, dif_pos hvalid]
    rfl
  refine ⟨[Char.ofNat b.toNat], ?_⟩
  rw [List.flatMap_singleton]
  unfold String.utf8EncodeChar
  dsimp only
  rw [hval, if_pos (by omega), UInt8.ofNat_toNat]

/-- A text may be cut at a byte below 128. -/
theorem utf8_cut_iff {b : UInt8} (hb : b < 128) (a rest : Bytes) :
    Utf8 (a ++ b :: rest) ↔ Utf8 a ∧ Utf8 rest := by
  constructor
  · rintro ⟨text, htext⟩
    induction text generalizing a with
    | nil => simp at htext
    | cons c text ih =>
      rw [List.flatMap_cons] at htext
      rcases List.append_eq_append_iff.mp htext with ⟨more, ha, hmore⟩ | ⟨more, hc, hmore⟩
      · -- the character lies in front of the cut
        obtain ⟨hfront, hrest⟩ := ih more hmore
        rw [ha]
        exact ⟨.append ⟨[c], List.flatMap_singleton _ _⟩ hfront, hrest⟩
      · cases more with
        | nil =>
          obtain ⟨hnil, hrest⟩ := ih [] hmore.symm
          rw [List.append_nil] at hc
          exact ⟨⟨[c], by rw [List.flatMap_singleton, hc]⟩, hrest⟩
        | cons x more =>
          obtain ⟨rfl, hrest⟩ := List.cons.inj hmore
          have hone := utf8EncodeChar_ascii (by rw [hc]; simp) hb
          rw [hone] at hc
          cases a with
          | nil =>
            obtain rfl : more = [] := (List.cons.inj hc).2.symm
            exact ⟨utf8_nil, text, hrest.symm⟩
          | cons y a => simp at hc
  · rintro ⟨ha, hrest⟩
    exact ha.append ((utf8_singleton hb).append hrest)

theorem utf8_cons_iff {b : UInt8} (hb : b < 128) (rest : Bytes) : Utf8 (b :: rest) ↔ Utf8 rest := by
  have hcut := utf8_cut_iff hb [] rest
  rw [List.nil_append] at hcut
  rw [hcut]
  exact ⟨fun h => h.2, fun h => ⟨utf8_nil, h⟩⟩

def Ascii (a : Bytes) : Prop := ∀ b ∈ a, b < 128

instance (a : Bytes) : Decidable (Ascii a) := List.decidableBAll (· < 128) a

/-- In front of any text stands ASCII. -/
theorem utf8_ascii_append_iff {a : Bytes} (ha : Ascii a) (rest : Bytes) :
    Utf8 (a ++ rest) ↔ Utf8 rest := by
  induction a with
  | nil => rfl
  | cons b a ih =>
    rw [List.cons_append, utf8_cons_iff (ha b List.mem_cons_self),
      ih fun b hb => ha b (List.mem_cons_of_mem _ hb)]

end Grid0Relay.Lib
