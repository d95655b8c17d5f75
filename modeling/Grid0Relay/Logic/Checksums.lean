import Grid0Relay.Logic.Rewrite
import Grid0Relay.Relay.UdpProxy

/-!
# The other two checksum routines

`calc_checksum` and `calc_payload_checksum` subtract where `ipv4_header_checksum` folds,
which comes to the same. They differ from it in what they sum: the first adds an odd last
byte as it stands, and the second loses its place in a part that follows an odd one.
-/

namespace Grid0Relay

open Lib Lib.Exec Lib.OnesComplement

/-! ## Subtracting and folding -/

theorem reduceSum_spec (fuel sum : Nat) (h : sum ≤ fuel) :
    reduceSum fuel sum < 65536 ∧ reduceSum fuel sum % 65535 = sum % 65535 ∧
      (reduceSum fuel sum = 0 ↔ sum = 0) := by
  induction fuel generalizing sum with
  | zero =>
    obtain rfl : sum = 0 := by omega
    simp [reduceSum]
  | succ fuel ih =>
    rw [reduceSum]
    split
    · obtain ⟨hlt, hmod, hzero⟩ := ih (sum - 0xffff) (by omega)
      exact ⟨hlt, by omega, by omega⟩
    · exact ⟨by omega, rfl, Iff.rfl⟩

/-- Both loops end at the same representative. -/
theorem reduceSum_eq_fold (sum : Nat) : reduceSum sum sum = fold sum := by
  obtain ⟨hlt, hmod, hzero⟩ := reduceSum_spec sum sum (Nat.le_refl _)
  exact fold_unique hlt hmod hzero

/-! ## `calc_checksum` -/

/-- What `calc_checksum` sums: an odd last byte is not shifted. -/
def looseSum : Bytes → Nat
  | a :: b :: rest => a.toNat * 256 + b.toNat + looseSum rest
  | [a] => a.toNat
  | [] => 0

/-- The last byte, if it is an odd one. -/
def oddByte : Bytes → Nat
  | _ :: _ :: rest => oddByte rest
  | [a] => a.toNat
  | [] => 0

theorem wordSum_eq_looseSum : ∀ b : Bytes, wordSum b = looseSum b + 255 * oddByte b
  | [] => rfl
  | [a] => by
    simp only [wordSum, looseSum, oddByte]
    omega
  | a :: b :: rest => by
    have ih := wordSum_eq_looseSum rest
    simp only [wordSum, looseSum, oddByte]
    omega

theorem oddByte_lt : ∀ b : Bytes, oddByte b < 256
  | [] => by simp [oddByte]
  | [a] => a.toNat_lt
  | _ :: _ :: rest => oddByte_lt rest

/-- There is none, or it is zero. -/
theorem oddByte_eq_zero : ∀ b : Bytes, oddByte b = 0 ↔ b.length % 2 = 0 ∨ b.byte (b.length - 1) = 0
  | [] => by simp [oddByte]
  | [a] => by simp [oddByte, Bytes.byte, ← UInt8.toNat_inj]
  | a :: b :: rest => by
    rw [oddByte, oddByte_eq_zero rest]
    cases rest with
    | nil => simp
    | cons c rest =>
      have hindex : (a :: b :: c :: rest).length - 1 = rest.length + 2 := rfl
      have hindex' : (c :: rest).length - 1 = rest.length := rfl
      rw [hindex, hindex', show Bytes.byte (a :: b :: c :: rest) (rest.length + 2) =
        Bytes.byte (c :: rest) rest.length from rfl]
      have heven : (a :: b :: c :: rest).length % 2 = (c :: rest).length % 2 := by
        simp only [List.length_cons]
        omega
      rw [heven]

theorem calcChecksumSum_toNat : ∀ (sum : UInt32) (b : Bytes),
    (calcChecksumSum sum b).toNat = (sum.toNat + looseSum b) % 2 ^ 32
  | sum, [] => by
    have := sum.toNat_lt
    simp only [calcChecksumSum, looseSum]
    omega
  | sum, [a] => by
    simp only [calcChecksumSum, looseSum, UInt32.toNat_add, UInt8.toNat_toUInt32]
  | sum, a :: b :: rest => by
    rw [calcChecksumSum, calcChecksumSum_toNat _ rest, UInt32.toNat_add, word_toNat]
    simp only [looseSum]
    omega

theorem calcChecksum_eq {b : Bytes} (hlen : b.length ≤ 65535) :
    calcChecksum b = complement16 (fold (looseSum b)) := by
  have hle := wordSum_le b
  have hsum := wordSum_eq_looseSum b
  have hexact : (calcChecksumSum 0 b).toNat = looseSum b := by
    rw [calcChecksumSum_toNat, UInt32.toNat_zero, Nat.mod_eq_of_lt (by omega)]
    omega
  rw [calcChecksum, reduceSum_eq_fold, hexact]

theorem complement16_fold_inj {a b : Nat} :
    complement16 (fold a) = complement16 (fold b) ↔ a % 65535 = b % 65535 ∧ (a = 0 ↔ b = 0) := by
  have ha := fold_lt a
  have hb := fold_lt b
  have hinj : complement16 (fold a) = complement16 (fold b) ↔ fold a = fold b := by
    unfold complement16
    omega
  rw [hinj]
  constructor
  · intro heq
    refine ⟨?_, ?_⟩
    · rw [← fold_mod a, heq, fold_mod]
    · rw [← fold_eq_zero a, heq, fold_eq_zero]
  · rintro ⟨hmod, hzero⟩
    exact fold_unique ha (by rw [fold_mod, hmod]) (by rw [fold_eq_zero, hzero])

/-- The two routines agree unless there is an odd last byte that is not zero. -/
theorem calcChecksum_eq_ipv4HeaderChecksum {b : Bytes} (hlen : b.length ≤ 65535) :
    calcChecksum b = ipv4HeaderChecksum b ↔ oddByte b = 0 := by
  have hodd := oddByte_lt b
  rw [calcChecksum_eq hlen, ipv4HeaderChecksum_eq hlen, wordSum_eq_looseSum,
    complement16_fold_inj]
  omega

/-- A checksum of `calc_checksum`, put into its field, verifies unless there is an odd last
byte that is not zero. -/
theorem fold_put_calcChecksum {b : Bytes} {off : Nat} (even : off % 2 = 0)
    (h : off + 2 ≤ b.length) (hlen : b.length ≤ 65535) (hfield : b.net16 off = 0) :
    fold (wordSum (b.put off (Bytes.bytes16 (calcChecksum b)))) = 0xffff ↔ oddByte b = 0 := by
  have hlt : calcChecksum b < 65536 := complement16_lt _
  have hput := wordSum_put16 even h hlt
  have hodd := oddByte_lt b
  have hloose := fold_lt (looseSum b)
  have hmod := fold_mod (looseSum b)
  have hzero := fold_eq_zero (looseSum b)
  have hcheck : calcChecksum b = 65535 - fold (looseSum b) := by
    rw [calcChecksum_eq hlen, complement16, Nat.mod_eq_of_lt hloose]
  generalize hsum : wordSum (b.put off (Bytes.bytes16 (calcChecksum b))) = sum at hput ⊢
  rw [hfield, Nat.add_zero, wordSum_eq_looseSum, hcheck] at hput
  have hfold := fold_lt sum
  have hresidue := fold_mod sum
  have hnone := fold_eq_zero sum
  omega

/-! ## `calc_payload_checksum` -/

/-- No part that is followed by another leaves half a word, unless one byte follows to
complete it. -/
def Aligned : List Bytes → Prop
  | [] => True
  | [_] => True
  | part :: next :: rest =>
    if part.length % 2 = 0 then Aligned (next :: rest) else next.length = 1 ∧ Aligned rest

theorem aligned_cons_even {part : Bytes} (h : part.length % 2 = 0) (rest : List Bytes) :
    Aligned (part :: rest) ↔ Aligned rest := by
  cases rest with
  | nil => exact iff_of_true trivial trivial
  | cons next rest => rw [Aligned, if_pos h]

theorem aligned_cons_odd {part : Bytes} (h : part.length % 2 = 1) (next : Bytes)
    (rest : List Bytes) : Aligned (part :: next :: rest) ↔ next.length = 1 ∧ Aligned rest := by
  rw [Aligned, if_neg (by omega)]

theorem wordSum_slice_succ {part : Bytes} {start words : Nat}
    (h : start + 2 * (words + 1) ≤ part.length) :
    wordSum (part.slice start (2 * (words + 1))) =
      part.net16 start + wordSum (part.slice (start + 2) (2 * words)) := by
  have hsplit := @wordSum_split (part.slice start (2 * (words + 1))) 0 rfl
    (by rw [Bytes.length_slice]; omega)
  rw [Bytes.net16_slice (by omega), Nat.add_zero, List.take_zero] at hsplit
  rw [hsplit, Bytes.slice, Bytes.slice, List.drop_take, List.drop_drop]
  simp [wordSum, Nat.mul_add]

/-- The words of a part from an offset on. -/
theorem addWords_eq (part : Bytes) (words : Nat) (start : Nat) (sum : UInt32)
    (h : start + 2 * words ≤ part.length) :
    ∃ sum', addWords part start words sum = pure sum' ∧
      sum'.toNat = (sum.toNat + wordSum (part.slice start (2 * words))) % 2 ^ 32 := by
  induction words generalizing start sum with
  | zero =>
    exact ⟨sum, rfl, by simp [Bytes.slice, wordSum]⟩
  | succ words ih =>
    obtain ⟨sum', hrun, hsum⟩ := ih (start + 2) (sum + UInt32.ofNat (part.net16 start)) (by omega)
    refine ⟨sum', ?_, ?_⟩
    · rw [addWords, readNet16_ok (by omega), pure_bind, hrun]
    · have hword := Bytes.net16_lt part start
      rw [hsum, wordSum_slice_succ h, UInt32.toNat_add, UInt32.toNat_ofNat']
      omega

/-- Words that are not all there. -/
theorem addWords_outside (part : Bytes) (words : Nat) (start : Nat) (sum : UInt32)
    (hpos : 0 < words) (h : part.length < start + 2 * words) :
    addWords part start words sum = throw .readBounds := by
  induction words generalizing start sum with
  | zero => omega
  | succ words ih =>
    rw [addWords]
    by_cases hfirst : start + 1 < part.length
    · rw [readNet16_ok hfirst, pure_bind, ih _ _ (by omega) (by omega)]
    · rw [readNet16, if_neg hfirst]
      rfl

section Parts

variable {part next : Bytes} (rest : List Bytes) (sum : UInt32)

theorem addParts_even (h : part.length % 2 = 0) :
    addParts (part :: rest) 0 sum =
      addWords part 0 (part.length / 2) sum >>= fun sum => addParts rest 0 sum := by
  have hleft : (part.length : Int) - 2 * (part.length / 2 : Nat) = 0 := by omega
  simp only [addParts, Nat.cast_zero, Int.sub_zero, Int.toNat_natCast, hleft, if_true, Nat.mul_zero]

theorem addParts_odd_last (h : part.length % 2 = 1) :
    addParts [part] 0 sum =
      addWords part 0 (part.length / 2) sum >>= fun sum =>
        pure (sum + ((part.byte (part.length - 1)).toUInt32 <<< 8)) := by
  have hleft : ¬ (part.length : Int) - 2 * (part.length / 2 : Nat) = 0 := by omega
  have hlast : 2 * (part.length / 2) = part.length - 1 := by omega
  simp only [addParts, Nat.cast_zero, Int.sub_zero, Int.toNat_natCast, if_neg hleft, Nat.mul_zero,
    Nat.zero_add, hlast, readByte_ok (show part.length - 1 < part.length by omega), pure_bind]

theorem addParts_odd (h : part.length % 2 = 1) :
    addParts (part :: next :: rest) 0 sum =
      addWords part 0 (part.length / 2) sum >>= fun sum => readByte next 0 >>= fun low =>
        addParts (next :: rest) 1
          (sum + ((part.byte (part.length - 1)).toUInt32 <<< 8 ||| low.toUInt32)) := by
  have hleft : ¬ (part.length : Int) - 2 * (part.length / 2 : Nat) = 0 := by omega
  have hlast : 2 * (part.length / 2) = part.length - 1 := by omega
  rw [addParts]
  simp only [Nat.cast_zero, Int.sub_zero, Int.toNat_natCast, if_neg hleft, Nat.mul_zero,
    Nat.zero_add, hlast, readByte_ok (show part.length - 1 < part.length by omega), pure_bind]

/-- One byte behind an odd part is used up. -/
theorem addParts_one (h : next.length = 1) :
    addParts (next :: rest) 1 sum = addParts rest 0 sum := by
  have hlen : (next.length : Int) - (1 : Nat) = 0 := by omega
  simp only [addParts, hlen, Int.toNat_zero, Nat.zero_div, addWords, pure_bind, Nat.cast_zero,
    Int.mul_zero, Int.sub_zero, if_true]

/-- More bytes behind an odd part are read from the third on, and one too many. -/
theorem addParts_behind (h : 2 ≤ next.length) :
    addParts (next :: rest) 1 sum = throw .readBounds := by
  have hlen : ((next.length : Int) - (1 : Nat)).toNat = next.length - 1 := by omega
  simp only [addParts, hlen, Nat.mul_one]
  by_cases hodd : next.length % 2 = 1
  · rw [addWords_outside next _ 2 sum (by omega) (by omega)]
    rfl
  · obtain ⟨sum', hrun, -⟩ := addWords_eq next ((next.length - 1) / 2) 2 sum (by omega)
    have hleft : ¬ (next.length : Int) - (1 : Nat) - 2 * ((next.length - 1) / 2 : Nat) = 0 := by
      omega
    rw [hrun, pure_bind, if_neg hleft, readByte, if_neg (by omega)]
    rfl

end Parts

theorem slice_even {part : Bytes} (h : part.length % 2 = 0) :
    part.slice 0 (2 * (part.length / 2)) = part := by
  have hwhole : 2 * (part.length / 2) = part.length := by omega
  rw [hwhole, Bytes.slice, List.drop_zero, List.take_length]

theorem slice_odd {part : Bytes} (h : part.length % 2 = 1) :
    part = part.slice 0 (2 * (part.length / 2)) ++ [part.byte (part.length - 1)] := by
  have hlast : 2 * (part.length / 2) = part.length - 1 := by omega
  have hlt : part.length - 1 < part.length := by omega
  rw [hlast, Bytes.slice, List.drop_zero, Bytes.byte_of_lt hlt, List.take_append_getElem hlt,
    show part.length - 1 + 1 = part.length by omega, List.take_length]

/-- The half word an odd part leaves begins what follows. -/
theorem wordSum_odd_append {part : Bytes} (h : part.length % 2 = 1) (tail : Bytes) :
    wordSum (part ++ tail) = wordSum (part.slice 0 (2 * (part.length / 2))) +
      wordSum (part.byte (part.length - 1) :: tail) := by
  conv_lhs => rw [slice_odd h]
  rw [List.append_assoc, List.singleton_append, wordSum_append _ _ ?_]
  rw [Bytes.length_slice]
  omega

/-- An aligned chain is summed as one string. -/
theorem addParts_aligned : ∀ (parts : List Bytes) (sum : UInt32), Aligned parts →
    ∃ sum', addParts parts 0 sum = pure sum' ∧
      sum'.toNat = (sum.toNat + wordSum parts.flatten) % 2 ^ 32
  | [], sum, _ => ⟨sum, rfl, by simp [wordSum]⟩
  | part :: rest, sum, h => by
    obtain ⟨sum', hrun, hsum⟩ := addWords_eq part (part.length / 2) 0 sum (by omega)
    by_cases heven : part.length % 2 = 0
    · obtain ⟨sum'', hrest, hsum'⟩ := addParts_aligned rest sum'
        ((aligned_cons_even heven rest).mp h)
      refine ⟨sum'', by rw [addParts_even rest sum heven, hrun, pure_bind, hrest], ?_⟩
      rw [hsum', hsum, slice_even heven, List.flatten_cons, wordSum_append _ _ heven]
      omega
    have hodd : part.length % 2 = 1 := by omega
    cases rest with
    | nil =>
      refine ⟨_, by rw [addParts_odd_last sum hodd, hrun, pure_bind], ?_⟩
      rw [UInt32.toNat_add, high_toNat, hsum, List.flatten_cons, wordSum_odd_append hodd]
      simp only [List.flatten_nil, wordSum]
      omega
    | cons next more =>
      obtain ⟨hone, hmore⟩ := (aligned_cons_odd hodd next more).mp h
      obtain ⟨low, rfl⟩ := List.length_eq_one_iff.mp hone
      obtain ⟨sum'', hrest, hsum'⟩ := addParts_aligned more
        (sum' + ((part.byte (part.length - 1)).toUInt32 <<< 8 ||| low.toUInt32)) hmore
      refine ⟨sum'', ?_, ?_⟩
      · rw [addParts_odd more sum hodd, hrun, pure_bind, readByte_ok (by simp), pure_bind,
          addParts_one more _ hone]
        exact hrest
      · rw [hsum', UInt32.toNat_add, word_toNat, hsum, List.flatten_cons,
          wordSum_odd_append hodd]
        simp only [List.flatten_cons, List.singleton_append, wordSum]
        omega

/-- Any other is read out of bounds. -/
theorem addParts_unaligned : ∀ (parts : List Bytes) (sum : UInt32), ¬ Aligned parts →
    addParts parts 0 sum = throw .readBounds
  | [], _, h => absurd trivial h
  | [_], _, h => absurd trivial h
  | part :: next :: rest, sum, h => by
    obtain ⟨sum', hrun, -⟩ := addWords_eq part (part.length / 2) 0 sum (by omega)
    by_cases heven : part.length % 2 = 0
    · have hrest : ¬ Aligned (next :: rest) := fun hrest =>
        h ((aligned_cons_even heven _).mpr hrest)
      rw [addParts_even _ sum heven, hrun, pure_bind, addParts_unaligned _ _ hrest]
    have hodd : part.length % 2 = 1 := by omega
    rw [addParts_odd rest sum hodd, hrun, pure_bind]
    by_cases hempty : next.length = 0
    · rw [readByte, if_neg (by omega)]
      rfl
    rw [readByte_ok (by omega), pure_bind]
    by_cases hone : next.length = 1
    · have hrest : ¬ Aligned rest := fun hrest =>
        h ((aligned_cons_odd hodd next rest).mpr ⟨hone, hrest⟩)
      rw [addParts_one rest _ hone, addParts_unaligned _ _ hrest]
    · exact addParts_behind rest _ (by omega)

/-- The checksum of a chain that is not too long for the accumulator. -/
theorem calcPayloadChecksum_aligned {parts : List Bytes} (h : Aligned parts)
    (hlen : parts.flatten.length ≤ 131072) :
    calcPayloadChecksum parts = pure (complement16 (fold (wordSum parts.flatten))) := by
  have hle := wordSum_le parts.flatten
  obtain ⟨sum, hrun, hsum⟩ := addParts_aligned parts 0 h
  have hexact : sum.toNat = wordSum parts.flatten := by
    rw [hsum, UInt32.toNat_zero]
    omega
  rw [calcPayloadChecksum, hrun, pure_bind, hexact, reduceSum_eq_fold]

theorem calcPayloadChecksum_unaligned {parts : List Bytes} (h : ¬ Aligned parts) :
    calcPayloadChecksum parts = throw .readBounds := by
  rw [calcPayloadChecksum, addParts_unaligned parts 0 h]
  rfl

/-! ## `send_udp_ex` -/

@[simp] theorem length_udpHeader (srcport dstport length checksum : Nat) :
    (udpHeader srcport dstport length checksum).length = 8 := rfl

@[simp] theorem length_pseudoHeader (src dst : Ip4) (length : Nat) :
    (pseudoHeader src dst length).length = 12 := by
  simp [pseudoHeader]

/-- The two headers in front of the payload are even. -/
theorem aligned_headers (src : Ip4) (srcport : Nat) (dst : Ip4) (dstport length : Nat)
    (payload : List Bytes) :
    Aligned (pseudoHeader src dst length :: udpHeader srcport dstport length 0 :: payload) ↔
      Aligned payload := by
  rw [aligned_cons_even (by rw [length_pseudoHeader]),
    aligned_cons_even (by rw [length_udpHeader])]

end Grid0Relay
