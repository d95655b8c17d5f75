import Grid0Relay.Relay.Checksum

/-!
# Address translation

`rewriteIpv4Addresses` as a pure function (`translate`) with the test that lets
it through (`Rewritable`), and what a translated packet is:

* the length, and every byte outside the addresses and the two checksums, stay;
* the header sums to all ones, and so does the UDP datagram with its pseudo-header;
* translating to the addresses already there is the identity on a packet whose
  checksum fields are the ones the code computes.
-/

namespace Grid0Relay

open Lib Lib.Exec Lib.OnesComplement

/-- The length of the IPv4 header a packet declares. -/
def headerLen (ip : Bytes) : Nat := (ip.byte 0 &&& 0x0f).toNat * 4

/-- The length a packet declares. -/
def totalLen (ip : Bytes) : Nat := ip.net16 2

/-- The test of `rewrite_ipv4_addresses`. -/
def Rewritable (ip : Bytes) (capturedLen : Nat) : Prop :=
  20 ≤ capturedLen ∧ 20 ≤ headerLen ip ∧ headerLen ip ≤ capturedLen ∧
    headerLen ip ≤ totalLen ip ∧ totalLen ip ≤ capturedLen
deriving Decidable

/-- A UDP packet with room for a UDP header. -/
def HasUdp (ip : Bytes) : Prop := ip.byte 9 = ipv4ProtocolUdp ∧ headerLen ip + 8 ≤ totalLen ip
deriving Decidable

/-- Fill in the header checksum over a zeroed field. -/
def sealHeader (ip : Bytes) (headerLen : Nat) : Bytes :=
  let blank := ip.put 10 (Bytes.bytes16 0)
  blank.put 10 (Bytes.bytes16 (ipv4HeaderChecksum (blank.slice 0 headerLen)))

/-- Fill in the UDP checksum over a zeroed field. -/
def sealUdp (ip : Bytes) (headerLen totalLen : Nat) : Bytes :=
  let blank := ip.put (headerLen + 6) (Bytes.bytes16 0)
  blank.put (headerLen + 6) (Bytes.bytes16 (udpChecksum (blank.slice 0 totalLen) headerLen totalLen))

/-- Write both addresses. -/
def readdress (ip : Bytes) (src dst : Ip4) : Bytes := (ip.put 12 src.toList).put 16 dst.toList

/-- What `rewrite_ipv4_addresses` leaves in the buffer when it succeeds. -/
def translate (ip : Bytes) (src dst : Ip4) : Bytes :=
  let summed := sealHeader (readdress ip src dst) (headerLen ip)
  if HasUdp ip then sealUdp summed (headerLen ip) (totalLen ip) else summed

/-! ## The addresses and the header checksum -/

section Fields

variable {ip : Bytes} {src dst : Ip4} {hl : Nat}

theorem length_put_src (h : 20 ≤ ip.length) : (ip.put 12 src.toList).length = ip.length :=
  Bytes.length_put (by simp; omega)

theorem length_readdress (h : 20 ≤ ip.length) : (readdress ip src dst).length = ip.length := by
  have h12 := @length_put_src ip src h
  rw [readdress, Bytes.length_put (by simp; omega), h12]

theorem byte_readdress (h : 20 ≤ ip.length) {i : Nat} (out : i < 12 ∨ 20 ≤ i) :
    (readdress ip src dst).byte i = ip.byte i := by
  have h12 := @length_put_src ip src h
  rw [readdress, Bytes.byte_put_outside (by simp; omega) (by simp; omega),
    Bytes.byte_put_outside (by simp; omega) (by simp; omega)]

theorem src_readdress (h : 20 ≤ ip.length) : (readdress ip src dst).vecAt 4 12 = src := by
  have h12 := @length_put_src ip src h
  rw [readdress, Bytes.vecAt_put_outside (by simp; omega) (by simp),
    Bytes.vecAt_put_self src (by omega)]

theorem dst_readdress (h : 20 ≤ ip.length) : (readdress ip src dst).vecAt 4 16 = dst := by
  have h12 := @length_put_src ip src h
  rw [readdress, Bytes.vecAt_put_self dst (by omega)]

/-- Writing the addresses a packet already has. -/
theorem readdress_self (h : 20 ≤ ip.length) :
    readdress ip (ip.vecAt 4 12) (ip.vecAt 4 16) = ip := by
  rw [readdress, Bytes.put_vecAt_self (by omega), Bytes.put_vecAt_self (by omega)]

theorem sealHeader_put (h : 12 ≤ ip.length) :
    sealHeader ip hl =
      ip.put 10 (Bytes.bytes16 (ipv4HeaderChecksum ((ip.put 10 (Bytes.bytes16 0)).slice 0 hl))) :=
  Bytes.put_put (by simpa using h) rfl

theorem length_sealHeader (h : 12 ≤ ip.length) : (sealHeader ip hl).length = ip.length := by
  rw [sealHeader_put h, Bytes.length_put (by simpa using h)]

theorem byte_sealHeader (h : 12 ≤ ip.length) {i : Nat} (out : i < 10 ∨ 12 ≤ i) :
    (sealHeader ip hl).byte i = ip.byte i := by
  rw [sealHeader_put h, Bytes.byte_put_outside (by simpa using h) (by simpa using out)]

theorem ipv4HeaderChecksum_eq {b : Bytes} (hlen : b.length ≤ 65535) :
    ipv4HeaderChecksum b = complement16 (fold (wordSum b)) := by
  rw [ipv4HeaderChecksum, checksumAddBytes_exact (by simp; omega)]
  simp

/-- The checksum of a part is zero when its sum is all ones. -/
theorem ipv4HeaderChecksum_eq_zero {b : Bytes} (hlen : b.length ≤ 65535) :
    ipv4HeaderChecksum b = 0 ↔ fold (wordSum b) = 0xffff := by
  have hlt := fold_lt (wordSum b)
  rw [ipv4HeaderChecksum_eq hlen, complement16]
  omega

/-- It is, once the checksum is written into a blank field: the sum grows by just
that. -/
theorem ipv4HeaderChecksum_put {b : Bytes} {off : Nat} (even : off % 2 = 0)
    (h : off + 2 ≤ b.length) (hlen : b.length ≤ 65535) (hfield : b.net16 off = 0) :
    ipv4HeaderChecksum (b.put off (Bytes.bytes16 (ipv4HeaderChecksum b))) = 0 := by
  have hsum := wordSum_put16 even h (ipv4HeaderChecksum_lt b)
  rw [hfield, Nat.add_zero] at hsum
  rw [ipv4HeaderChecksum_eq (by rw [Bytes.length_put (by simpa using h)]; exact hlen), hsum,
    ipv4HeaderChecksum_eq hlen, fold_add_complement]
  rfl

/-- The header of a sealed packet sums to all ones, so its checksum is zero. -/
theorem ipv4HeaderChecksum_sealHeader (lo : 12 ≤ hl) (hi : hl ≤ ip.length) (hlen : hl ≤ 65535) :
    ipv4HeaderChecksum ((sealHeader ip hl).slice 0 hl) = 0 := by
  let blank := (ip.slice 0 hl).put 10 (Bytes.bytes16 0)
  have hslice : (ip.slice 0 hl).length = hl := by rw [Bytes.length_slice]; omega
  have hblank : blank.length = hl := by
    rw [Bytes.length_put (by rw [hslice]; simpa using lo), hslice]
  have hfield : blank.net16 10 = 0 := Bytes.net16_put_self (by omega) (by omega)
  have hsealed : (sealHeader ip hl).slice 0 hl =
      blank.put 10 (Bytes.bytes16 (ipv4HeaderChecksum blank)) := by
    have hput := @Bytes.slice_put_inside ip 0 10 hl (Bytes.bytes16 0) (by simpa using lo) (by omega)
    rw [Nat.zero_add] at hput
    have hput' := @Bytes.slice_put_inside (ip.put 10 (Bytes.bytes16 0)) 0 10 hl
      (Bytes.bytes16 (ipv4HeaderChecksum blank)) (by simpa using lo)
      (by rw [Bytes.length_put (by simp; omega)]; omega)
    rw [Nat.zero_add] at hput'
    rw [sealHeader, hput, hput', hput]
  rw [hsealed, ipv4HeaderChecksum_put rfl (by omega) (by omega) hfield]

end Fields

/-! ## The UDP checksum -/

section Udp

variable {ip : Bytes} {hl total : Nat}

/-- The sum `udp_checksum` folds: pseudo-header and datagram. -/
def udpSum (ip : Bytes) (hl total : Nat) : Nat :=
  wordSum (ip.slice 12 8) + 17 + (total - hl) + wordSum (ip.slice hl (total - hl))

/-- The 32-bit accumulator of `udp_checksum` does not wrap. -/
theorem udpChecksum_eq (ip : Bytes) (hlen : total ≤ 65535) :
    udpChecksum ip hl total =
      let result := complement16 (fold (udpSum ip hl total))
      if result = 0 then 0xffff else result := by
  have haddr : (ip.slice 12 8).length ≤ 8 := by rw [Bytes.length_slice]; omega
  have hdata : (ip.slice hl (total - hl)).length ≤ 65535 := by rw [Bytes.length_slice]; omega
  have hle := wordSum_le (ip.slice 12 8)
  have hfirst : (checksumAddBytes 0 (ip.slice 12 8)).toNat = wordSum (ip.slice 12 8) := by
    rw [checksumAddBytes_exact (by simp; omega)]
    simp
  have hproto : (ipv4ProtocolUdp.toUInt32).toNat = 17 := rfl
  have hsmall : (UInt32.ofNat ((total - hl) % 65536)).toNat = total - hl := by
    rw [UInt32.toNat_ofNat']
    omega
  have hmid : (checksumAddBytes 0 (ip.slice 12 8) + ipv4ProtocolUdp.toUInt32 +
      UInt32.ofNat ((total - hl) % 65536)).toNat =
      wordSum (ip.slice 12 8) + 17 + (total - hl) := by
    rw [UInt32.toNat_add, UInt32.toNat_add, hfirst, hproto, hsmall]
    omega
  have hall := @checksumAddBytes_exact (checksumAddBytes 0 (ip.slice 12 8) +
    ipv4ProtocolUdp.toUInt32 + UInt32.ofNat ((total - hl) % 65536)) (ip.slice hl (total - hl))
    (by rw [hmid]; omega)
  simp only [udpChecksum, udpSum, hall, hmid]
  rfl

theorem sealUdp_put (h : hl + 8 ≤ ip.length) :
    sealUdp ip hl total = ip.put (hl + 6) (Bytes.bytes16
      (udpChecksum ((ip.put (hl + 6) (Bytes.bytes16 0)).slice 0 total) hl total)) :=
  Bytes.put_put (by simp; omega) rfl

theorem length_sealUdp (h : hl + 8 ≤ ip.length) : (sealUdp ip hl total).length = ip.length := by
  rw [sealUdp_put h, Bytes.length_put (by simp; omega)]

theorem byte_sealUdp (h : hl + 8 ≤ ip.length) {i : Nat} (out : i < hl + 6 ∨ hl + 8 ≤ i) :
    (sealUdp ip hl total).byte i = ip.byte i := by
  rw [sealUdp_put h, Bytes.byte_put_outside (by simp; omega) (by simp; omega)]

theorem net16_sealUdp (h : hl + 8 ≤ ip.length) : (sealUdp ip hl total).net16 (hl + 6) =
    udpChecksum ((ip.put (hl + 6) (Bytes.bytes16 0)).slice 0 total) hl total := by
  rw [sealUdp_put h, Bytes.net16_put_self (by omega) (udpChecksum_lt _ _ _)]

/-- Only the sums over a prefix matter to `udpSum`. -/
theorem udpSum_slice (h : hl ≤ total) (hhl : 20 ≤ hl) :
    udpSum (ip.slice 0 total) hl total = udpSum ip hl total := by
  have haddr : (ip.slice 0 total).slice 12 8 = ip.slice 12 8 := by
    simp only [Bytes.slice, List.drop_zero, List.drop_take, List.take_take]
    congr 1
    omega
  have hdata : (ip.slice 0 total).slice hl (total - hl) = ip.slice hl (total - hl) := by
    simp only [Bytes.slice, List.drop_zero, List.drop_take, List.take_take]
    congr 1
    omega
  rw [udpSum, udpSum, haddr, hdata]

/-- Writing the checksum field adds the written value to the sum. -/
theorem udpSum_put {c : Nat} (hhl : 20 ≤ hl) (even : hl % 2 = 0) (h : hl + 8 ≤ total)
    (hin : total ≤ ip.length) (hc : c < 65536) :
    udpSum (ip.put (hl + 6) (Bytes.bytes16 c)) hl total + ip.net16 (hl + 6) =
      udpSum ip hl total + c := by
  have haddr : (ip.put (hl + 6) (Bytes.bytes16 c)).slice 12 8 = ip.slice 12 8 :=
    Bytes.slice_put_outside (by simp; omega) (by omega)
  have hdata : (ip.put (hl + 6) (Bytes.bytes16 c)).slice hl (total - hl) =
      (ip.slice hl (total - hl)).put 6 (Bytes.bytes16 c) :=
    Bytes.slice_put_inside (by simp; omega) (by omega)
  have hslice : (ip.slice hl (total - hl)).length = total - hl := by
    rw [Bytes.length_slice]
    omega
  have hword := @wordSum_put16 (ip.slice hl (total - hl)) 6 c rfl (by omega) hc
  rw [Bytes.net16_slice (by omega)] at hword
  rw [udpSum, udpSum, haddr, hdata]
  omega

/-- The checksum a sealed datagram carries completes its sum to all ones, in
either representation of zero. -/
theorem udpChecksum_sealUdp (hhl : 20 ≤ hl) (even : hl % 2 = 0) (h : hl + 8 ≤ total)
    (hin : total ≤ ip.length) (hlen : total ≤ 65535) :
    udpChecksum ((sealUdp ip hl total).slice 0 total) hl total = 0xffff := by
  let blank := ip.put (hl + 6) (Bytes.bytes16 0)
  have hblank : blank.length = ip.length := Bytes.length_put (by simp; omega)
  have hfield : blank.net16 (hl + 6) = 0 := Bytes.net16_put_self (by omega) (by omega)
  let c := udpChecksum (blank.slice 0 total) hl total
  have hsum : udpSum ((sealUdp ip hl total).slice 0 total) hl total =
      udpSum blank hl total + c := by
    rw [udpSum_slice (by omega) hhl]
    have := @udpSum_put blank hl total c hhl even h (by omega) (udpChecksum_lt _ _ _)
    show udpSum (blank.put (hl + 6) (Bytes.bytes16 c)) hl total = _
    omega
  have hc : c = let result := complement16 (fold (udpSum blank hl total))
      if result = 0 then 0xffff else result := by
    rw [← udpSum_slice (by omega) hhl]
    exact udpChecksum_eq _ hlen
  have hones : fold (udpSum blank hl total + c) = 65535 := by
    rw [hc]
    dsimp only
    split
    · rename_i hzero
      -- the sum already folds to all ones; adding 0xffff keeps the residue
      have hmax : fold (udpSum blank hl total) = 65535 := by
        have := fold_lt (udpSum blank hl total)
        unfold complement16 at hzero
        omega
      have hmod := fold_mod (udpSum blank hl total)
      exact fold_eq_max (by omega) (by omega)
    · exact fold_add_complement _
  rw [udpChecksum_eq _ hlen, hsum, hones]
  rfl

end Udp

/-! ## The whole translation -/

section Translate

variable {ip : Bytes} {src dst : Ip4}

theorem Rewritable.udp_bound {n : Nat} (h : Rewritable ip n) (hudp : HasUdp ip) :
    headerLen ip + 8 ≤ n :=
  Nat.le_trans hudp.2 h.2.2.2.2

theorem headerLen_even (ip : Bytes) : headerLen ip % 2 = 0 := by
  unfold headerLen
  omega

theorem length_sealed (h : 20 ≤ ip.length) :
    (sealHeader (readdress ip src dst) (headerLen ip)).length = ip.length := by
  have haddr : (readdress ip src dst).length = ip.length := length_readdress h
  rw [length_sealHeader (by omega), haddr]

theorem length_translate (h : Rewritable ip ip.length) :
    (translate ip src dst).length = ip.length := by
  have hsum := @length_sealed ip src dst h.1
  unfold translate
  split
  · rename_i hudp
    have := h.udp_bound hudp
    rw [length_sealUdp (by omega), hsum]
  · exact hsum

/-- A byte that is in neither address and in neither checksum is kept. -/
theorem byte_translate (h : Rewritable ip ip.length) {i : Nat} (out : i < 10 ∨ 20 ≤ i)
    (noUdp : HasUdp ip → i < headerLen ip + 6 ∨ headerLen ip + 8 ≤ i) :
    (translate ip src dst).byte i = ip.byte i := by
  have hlo := h.1
  have haddr : (readdress ip src dst).length = ip.length := length_readdress hlo
  have hsum := @length_sealed ip src dst hlo
  have hbyte : (sealHeader (readdress ip src dst) (headerLen ip)).byte i = ip.byte i := by
    rw [byte_sealHeader (by omega) (by omega), byte_readdress hlo (by omega)]
  unfold translate
  split
  · rename_i hudp
    have := h.udp_bound hudp
    rw [byte_sealUdp (by omega) (noUdp hudp), hbyte]
  · exact hbyte

/-- Nothing after the header checksum is sealed changes a byte of the header. -/
private theorem slice_header_translate (h : Rewritable ip ip.length) :
    (translate ip src dst).slice 0 (headerLen ip) =
      (sealHeader (readdress ip src dst) (headerLen ip)).slice 0 (headerLen ip) := by
  have hsum := @length_sealed ip src dst h.1
  unfold translate
  split
  · rename_i hudp
    have := h.udp_bound hudp
    dsimp only
    rw [sealUdp_put (by omega), Bytes.slice_put_outside (by simp; omega) (by omega)]
  · rfl

private theorem vecAt_translate (h : Rewritable ip ip.length) {off : Nat}
    (lo : 12 ≤ off) (hi : off + 4 ≤ 20) :
    (translate ip src dst).vecAt 4 off = (readdress ip src dst).vecAt 4 off := by
  have hlo := h.1
  have haddr : (readdress ip src dst).length = ip.length := length_readdress hlo
  have hsum := @length_sealed ip src dst hlo
  have hhl := h.2.1
  rw [Bytes.vecAt_eq_iff]
  intro k hk
  unfold translate
  split
  · rename_i hudp
    have := h.udp_bound hudp
    rw [byte_sealUdp (by omega) (by omega), byte_sealHeader (by omega) (by omega)]
  · rw [byte_sealHeader (by omega) (by omega)]

theorem src_translate (h : Rewritable ip ip.length) :
    (translate ip src dst).vecAt 4 12 = src := by
  rw [vecAt_translate h (by omega) (by omega), src_readdress h.1]

theorem dst_translate (h : Rewritable ip ip.length) :
    (translate ip src dst).vecAt 4 16 = dst := by
  rw [vecAt_translate h (by omega) (by omega), dst_readdress h.1]

theorem ipv4HeaderChecksum_translate (h : Rewritable ip ip.length) :
    ipv4HeaderChecksum ((translate ip src dst).slice 0 (headerLen ip)) = 0 := by
  have hhl : headerLen ip ≤ 60 := by
    have hle : (ip.byte 0 &&& 0x0f).toNat ≤ 15 := by
      rw [UInt8.toNat_and]
      exact Nat.and_le_right
    unfold headerLen
    omega
  rw [slice_header_translate h, ipv4HeaderChecksum_sealHeader (by have := h.2.1; omega)
    (by rw [length_readdress h.1]; exact h.2.2.1) (by omega)]

theorem udpChecksum_translate (h : Rewritable ip ip.length) (hudp : HasUdp ip) :
    udpChecksum ((translate ip src dst).slice 0 (totalLen ip)) (headerLen ip) (totalLen ip) =
      0xffff := by
  have hlen : totalLen ip ≤ 65535 := by
    have := Bytes.net16_lt ip 2
    unfold totalLen
    omega
  have hsum := @length_sealed ip src dst h.1
  unfold translate
  dsimp only
  rw [if_pos hudp, udpChecksum_sealUdp h.2.1 (headerLen_even ip) hudp.2
    (by rw [hsum]; exact h.2.2.2.2) hlen]

theorem udpField_translate (h : Rewritable ip ip.length) (hudp : HasUdp ip) :
    (translate ip src dst).net16 (headerLen ip + 6) ≠ 0 := by
  have hsum := @length_sealed ip src dst h.1
  have hbound := h.udp_bound hudp
  unfold translate
  dsimp only
  rw [if_pos hudp, net16_sealUdp (by omega)]
  exact udpChecksum_ne_zero _ _ _

/-- The checksum fields are the ones the code computes over zeroed fields. -/
structure ChecksumsComputed (ip : Bytes) : Prop where
  header : ip.net16 10 =
    ipv4HeaderChecksum ((ip.put 10 (Bytes.bytes16 0)).slice 0 (headerLen ip))
  udp : HasUdp ip → ip.net16 (headerLen ip + 6) =
    udpChecksum ((ip.put (headerLen ip + 6) (Bytes.bytes16 0)).slice 0 (totalLen ip))
      (headerLen ip) (totalLen ip)

/-- Translating to the addresses already there is the identity. -/
theorem translate_self (h : Rewritable ip ip.length) (hsums : ChecksumsComputed ip) :
    translate ip (ip.vecAt 4 12) (ip.vecAt 4 16) = ip := by
  have hlo := h.1
  have hheader : sealHeader ip (headerLen ip) = ip := by
    rw [sealHeader_put (by omega), ← hsums.header, Bytes.put_net16_self (by omega)]
  unfold translate
  dsimp only
  rw [readdress_self hlo, hheader]
  split
  · rename_i hudp
    have hbound := h.udp_bound hudp
    rw [sealUdp_put hbound, ← hsums.udp hudp, Bytes.put_net16_self (by omega)]
  · rfl

end Translate

/-- `rewrite_ipv4_addresses` never leaves its buffer, and is `translate`. -/
theorem rewriteIpv4Addresses_eq (ip : Bytes) (src dst : Ip4) :
    rewriteIpv4Addresses ip ip.length src dst =
      pure (if Rewritable ip ip.length then (true, translate ip src dst) else (false, ip)) := by
  by_cases hlo : ip.length < 20
  · have hno : ¬ Rewritable ip ip.length := fun h => absurd h.1 (by omega)
    rw [rewriteIpv4Addresses, if_pos hlo, if_neg hno]
  · rw [rewriteIpv4Addresses, if_neg hlo, readByte_ok (by omega), pure_bind,
      readNet16_ok (by omega), pure_bind]
    by_cases hno : headerLen ip < 20 ∨ headerLen ip > ip.length ∨ totalLen ip < headerLen ip ∨
        totalLen ip > ip.length
    · have hnot : ¬ Rewritable ip ip.length := by
        intro h
        obtain ⟨_, _, _, _, _⟩ := h
        omega
      rw [if_neg hnot]
      exact if_pos hno
    · have hok : Rewritable ip ip.length := by
        refine ⟨?_, ?_, ?_, ?_, ?_⟩ <;> omega
      rw [if_pos hok]
      refine (if_neg hno).trans ?_
      have haddr : (readdress ip src dst).length = ip.length := length_readdress hok.1
      have h12 := @length_put_src ip src hok.1
      have hblank : ((readdress ip src dst).put 10 (Bytes.bytes16 0)).length = ip.length := by
        rw [Bytes.length_put (by simp; omega), haddr]
      have hsum := @length_sealed ip src dst hok.1
      have hproto : (sealHeader (readdress ip src dst) (headerLen ip)).byte 9 = ip.byte 9 := by
        rw [byte_sealHeader (by omega) (by omega), byte_readdress hok.1 (by omega)]
      rw [writeRange_ok (by simp; omega), pure_bind, writeRange_ok (by simp; omega), pure_bind]
      change (writeRange (readdress ip src dst) 10 _ >>= _) = _
      rw [writeRange_ok (by simp; omega), pure_bind,
        readRange_ok (by rw [hblank]; have := hok.2.2.1; unfold headerLen at this; omega),
        pure_bind, writeRange_ok (by simp; omega), pure_bind]
      change (readByte (sealHeader (readdress ip src dst) (headerLen ip)) 9 >>= _) = _
      rw [readByte_ok (by omega), pure_bind, hproto]
      by_cases hudp : HasUdp ip
      · have hbound := hok.udp_bound hudp
        have hudpBlank : ((sealHeader (readdress ip src dst) (headerLen ip)).put
            (headerLen ip + 6) (Bytes.bytes16 0)).length = ip.length := by
          rw [Bytes.length_put (by simp; omega), hsum]
        refine (if_pos hudp).trans ?_
        change (writeRange (sealHeader (readdress ip src dst) (headerLen ip))
          (headerLen ip + 6) _ >>= _) = _
        rw [writeRange_ok (by simp; omega), pure_bind]
        change (readRange _ 0 (totalLen ip) >>= fun packet =>
          writeRange _ (headerLen ip + 6) _ >>= _) = _
        rw [readRange_ok (by rw [hudpBlank]; have := hok.2.2.2.2; omega), pure_bind,
          writeRange_ok (by simp; omega), pure_bind]
        simp only [translate, if_pos hudp]
        rfl
      · refine (if_neg hudp).trans ?_
        simp only [translate, if_neg hudp]
        rfl

end Grid0Relay
