import Grid0Relay.Lib.Bytes

/-!
# Ones'-complement sums of byte buffers

The Internet checksum adds the big-endian 16-bit words of a buffer, folds the
carries back in and complements the result. The arithmetic behind it is
arithmetic modulo 65535 with two representatives of zero: `fold` keeps the
residue, never leaves 16 bits, and yields `0` only for the empty sum, so a
nonzero multiple of 65535 folds to `0xffff` (`fold_eq_max`). Inserting the
complement of a sum into a zeroed, word-aligned field therefore makes the
whole buffer fold to `0xffff`.
-/

namespace Grid0Relay.Lib.OnesComplement

open Bytes

/-- The sum of the big-endian words of a buffer; an odd last byte is padded on
the right. -/
def wordSum : Bytes → Nat
  | a :: b :: rest => a.toNat * 256 + b.toNat + wordSum rest
  | [a] => a.toNat * 256
  | [] => 0

/-- Add the high half of a sum to its low half until 16 bits are left. -/
def foldCarry : Nat → Nat → Nat
  | 0, sum => sum
  | fuel + 1, sum =>
    if sum >>> 16 ≠ 0 then foldCarry fuel ((sum &&& 0xffff) + (sum >>> 16)) else sum

/-- Every round lowers a sum of more than 16 bits, so the sum itself is enough
fuel (`fold_lt`). -/
def fold (sum : Nat) : Nat := foldCarry sum sum

/-- The 16-bit complement of a sum. -/
def complement16 (sum : Nat) : Nat := 65535 - sum % 65536

/-! ## Word sums -/

theorem wordSum_append : ∀ (a b : Bytes), a.length % 2 = 0 →
    wordSum (a ++ b) = wordSum a + wordSum b
  | [], b, _ => by simp [wordSum]
  | [_], _, h => by simp at h
  | x :: y :: rest, b, h => by
    have ih := wordSum_append rest b (by simp only [List.length_cons] at h; omega)
    simp only [List.cons_append, wordSum, ih]
    omega

theorem wordSum_le : ∀ b : Bytes, wordSum b ≤ 65535 * ((b.length + 1) / 2)
  | [] => by simp [wordSum]
  | [a] => by
    have := a.toNat_lt
    simp only [wordSum, List.length_cons, List.length_nil]
    omega
  | a :: b :: rest => by
    have ih := wordSum_le rest
    have ha := a.toNat_lt
    have hb := b.toNat_lt
    simp only [wordSum, List.length_cons]
    omega

theorem wordSum_bytes16 {v : Nat} (h : v < 65536) : wordSum (bytes16 v) = v := by
  have hlow : (UInt8.ofNat v).toNat = v % 256 := by simp
  simp only [bytes16, wordSum, toNat_ofNat_byte (show v / 256 < 256 by omega), hlow]
  omega

/-- A word-aligned split of the sum around one 16-bit field. -/
theorem wordSum_split {b : Bytes} {off : Nat} (even : off % 2 = 0) (h : off + 2 ≤ b.length) :
    wordSum b = wordSum (b.take off) + b.net16 off + wordSum (b.drop (off + 2)) := by
  have htake : (b.take off).length = off := by
    rw [List.length_take]
    omega
  have hmid : b.drop off = b.byte off :: b.byte (off + 1) :: b.drop (off + 2) := by
    rw [List.drop_eq_getElem_cons (by omega), List.drop_eq_getElem_cons (by omega),
      byte_of_lt (by omega), byte_of_lt (by omega)]
  conv_lhs => rw [← List.take_append_drop off b]
  rw [wordSum_append _ _ (by omega), hmid]
  simp only [wordSum, net16]
  omega

/-- Overwriting a word-aligned field replaces its summand. -/
theorem wordSum_put16 {b : Bytes} {off v : Nat} (even : off % 2 = 0)
    (h : off + 2 ≤ b.length) (hv : v < 65536) :
    wordSum (b.put off (bytes16 v)) + b.net16 off = wordSum b + v := by
  have htake : (b.take off).length = off := by
    rw [List.length_take]
    omega
  have hput : wordSum (b.put off (bytes16 v)) =
      wordSum (b.take off) + v + wordSum (b.drop (off + 2)) := by
    rw [put, List.append_assoc, wordSum_append _ _ (by omega),
      wordSum_append _ _ (by simp), wordSum_bytes16 hv, length_bytes16]
    omega
  rw [hput, wordSum_split even h]
  omega

/-! ## Folding -/

private theorem and_low16 (n : Nat) : n &&& 0xffff = n % 65536 :=
  Nat.and_two_pow_sub_one_eq_mod n 16

private theorem shift16 (n : Nat) : n >>> 16 = n / 65536 := by
  rw [Nat.shiftRight_eq_div_pow]

/-- What one round of the loop keeps: the residue modulo 65535 and whether the
sum is zero. Carried through the fuel by induction. -/
theorem foldCarry_spec : ∀ (fuel sum : Nat), sum ≤ fuel →
    foldCarry fuel sum < 65536 ∧ foldCarry fuel sum % 65535 = sum % 65535 ∧
      (foldCarry fuel sum = 0 ↔ sum = 0)
  | 0, sum, h => by
    have : sum = 0 := by omega
    subst this
    simp [foldCarry]
  | fuel + 1, sum, h => by
    rw [foldCarry]
    split
    · rename_i high
      rw [shift16] at high
      rw [shift16, and_low16]
      obtain ⟨hlt, hmod, hzero⟩ :=
        foldCarry_spec fuel (sum % 65536 + sum / 65536) (by omega)
      refine ⟨hlt, ?_, ?_⟩
      · rw [hmod]
        omega
      · rw [hzero]
        omega
    · rename_i low
      rw [shift16] at low
      exact ⟨by omega, rfl, Iff.rfl⟩

theorem fold_lt (sum : Nat) : fold sum < 65536 := (foldCarry_spec sum sum (Nat.le_refl _)).1

theorem fold_mod (sum : Nat) : fold sum % 65535 = sum % 65535 :=
  (foldCarry_spec sum sum (Nat.le_refl _)).2.1

theorem fold_eq_zero (sum : Nat) : fold sum = 0 ↔ sum = 0 :=
  (foldCarry_spec sum sum (Nat.le_refl _)).2.2

/-- The residue and whether it is zero determine a folded sum. -/
theorem fold_unique {r sum : Nat} (hlt : r < 65536) (hmod : r % 65535 = sum % 65535)
    (hzero : r = 0 ↔ sum = 0) : r = fold sum := by
  have hlt' := fold_lt sum
  have hmod' := fold_mod sum
  have hzero' := fold_eq_zero sum
  omega

theorem fold_of_lt {sum : Nat} (h : sum < 65536) : fold sum = sum :=
  (fold_unique h rfl Iff.rfl).symm

/-- A nonzero multiple of 65535 folds to the all-ones representative. -/
theorem fold_eq_max {sum : Nat} (pos : sum ≠ 0) (h : sum % 65535 = 0) : fold sum = 65535 := by
  have hlt := fold_lt sum
  have hmod := fold_mod sum
  have hne : fold sum ≠ 0 := fun hz => pos ((fold_eq_zero sum).mp hz)
  omega

theorem complement16_lt (sum : Nat) : complement16 sum < 65536 := by
  unfold complement16
  omega

/-- Adding the complement of a folded sum completes it to all ones. -/
theorem fold_add_complement (sum : Nat) :
    fold (sum + complement16 (fold sum)) = 65535 := by
  have hlt := fold_lt sum
  have hmod := fold_mod sum
  have hzero := fold_eq_zero sum
  have hc : complement16 (fold sum) = 65535 - fold sum := by
    unfold complement16
    omega
  apply fold_eq_max
  · intro hz
    have hs : fold sum = 0 := hzero.mpr (by omega)
    omega
  · rw [hc]
    omega

end Grid0Relay.Lib.OnesComplement
