import Grid0Relay.Theorems.Translation

/-!
# What translation does to the data of a packet

The field that `rewrite_ipv4_addresses` writes into a UDP packet is the one non-zero
word that closes the sum of the packet's data with the pseudo-header of the new
addresses (`closes_unique`). Everything about transport checksums after a relay follows
from that and from arithmetic modulo 65535.
-/

namespace Grid0Relay

open Lib Lib.Exec Lib.OnesComplement

/-- The sum of a pseudo-header. -/
def pseudoSum (src dst : Ip4) (protocol len : Nat) : Nat :=
  wordSum (src.toList ++ dst.toList) + protocol + len

/-- The sum over pseudo-header and data is all ones. -/
def Closes (src dst : Ip4) (protocol : Nat) (data : Bytes) : Prop :=
  (pseudoSum src dst protocol data.length + wordSum data) % 65535 = 0

instance (src dst : Ip4) (protocol : Nat) (data : Bytes) :
    Decidable (Closes src dst protocol data) := inferInstanceAs (Decidable (_ = _))

/-- One non-zero word closes the sum. -/
theorem closes_unique {src dst : Ip4} {protocol : Nat} {data : Bytes} {c : Nat}
    (hlen : 8 ≤ data.length) (hc : c ≠ 0) (hlt : c < 65536)
    (hcloses : Closes src dst protocol (data.put 6 (Bytes.bytes16 c))) :
    data.net16 6 = c ↔ data.net16 6 ≠ 0 ∧ Closes src dst protocol data := by
  have hsum := @wordSum_put16 data 6 c rfl (by omega) hlt
  have hfield := Bytes.net16_lt data 6
  unfold Closes at *
  rw [Bytes.length_put (by simp; omega)] at hcloses
  constructor
  · intro heq
    exact ⟨by omega, by omega⟩
  · rintro ⟨hne, hown⟩
    omega

/-! ## UDP datagrams -/

/-- The length a UDP datagram declares. -/
def declaredLen (data : Bytes) : Nat := data.net16 4

/-- The checksum of a UDP datagram verifies, over the length it declares. A zero field is
no checksum. -/
def UdpValid (src dst : Ip4) (data : Bytes) : Prop :=
  8 ≤ declaredLen data ∧ declaredLen data ≤ data.length ∧
    (data.net16 6 = 0 ∨ Closes src dst 17 (data.take (declaredLen data)))
deriving Decidable

theorem declaredLen_put {data : Bytes} (hlen : 8 ≤ data.length) (c : Nat) :
    declaredLen (data.put 6 (Bytes.bytes16 c)) = declaredLen data :=
  Bytes.net16_put_outside (by simp; omega) (by omega)

/-! ## The data of a packet -/

/-- The data behind the header of a packet. -/
def dataOf (ip : Bytes) : Bytes := ip.slice (headerLen ip) (totalLen ip - headerLen ip)

section Data

variable {ip : Bytes} {src dst : Ip4}

theorem length_dataOf (h : Rewritable ip ip.length) :
    (dataOf ip).length = totalLen ip - headerLen ip := by
  rw [dataOf, Bytes.length_slice]
  have := h.2.2.2.2
  omega

theorem headerLen_translate (h : Rewritable ip ip.length) :
    headerLen (translate ip src dst) = headerLen ip := by
  have hhl := h.2.1
  rw [headerLen, headerLen, byte_translate h (by omega) (by omega)]

theorem totalLen_translate (h : Rewritable ip ip.length) :
    totalLen (translate ip src dst) = totalLen ip := by
  have hhl := h.2.1
  rw [totalLen, totalLen, Bytes.net16, Bytes.net16, byte_translate h (by omega) (by omega),
    byte_translate h (by omega) (by omega)]

theorem byte_dataOf {i : Nat} (h : headerLen ip + i < totalLen ip) :
    (dataOf ip).byte i = ip.byte (headerLen ip + i) :=
  Bytes.byte_slice (by omega)

theorem length_dataOf_translate (h : Rewritable ip ip.length) :
    (dataOf (translate ip src dst)).length = (dataOf ip).length := by
  rw [dataOf, dataOf, Bytes.length_slice, Bytes.length_slice, headerLen_translate h,
    totalLen_translate h, length_translate h]

theorem byte_dataOf_translate (h : Rewritable ip ip.length) {i : Nat}
    (hi : i < (dataOf ip).length) (hudp : HasUdp ip → i ≠ 6 ∧ i ≠ 7) :
    (dataOf (translate ip src dst)).byte i = (dataOf ip).byte i := by
  rw [length_dataOf h] at hi
  have hhl := h.2.1
  rw [byte_dataOf (by rw [headerLen_translate h, totalLen_translate h]; omega), byte_dataOf (by omega),
    headerLen_translate h]
  refine byte_translate h (by omega) fun hhas => ?_
  have := hudp hhas
  omega

/-- A packet that has no UDP header keeps its data. -/
theorem dataOf_translate (h : Rewritable ip ip.length) (hudp : ¬ HasUdp ip) :
    dataOf (translate ip src dst) = dataOf ip := by
  refine Bytes.ext_byte (length_dataOf_translate h) fun i hi => ?_
  rw [length_dataOf_translate h] at hi
  exact byte_dataOf_translate h hi fun hhas => absurd hhas hudp

theorem length_dataOf_of_hasUdp (h : Rewritable ip ip.length) (hudp : HasUdp ip) :
    8 ≤ (dataOf ip).length := by
  rw [length_dataOf h]
  have := hudp.2
  omega

/-- A UDP packet keeps its data but for the checksum. -/
theorem dataOf_translate_udp (h : Rewritable ip ip.length) (hudp : HasUdp ip) :
    (dataOf ip).put 6 (Bytes.bytes16 ((dataOf (translate ip src dst)).net16 6)) =
      dataOf (translate ip src dst) := by
  have hlen := length_dataOf_of_hasUdp h hudp
  refine Bytes.put_net16_of_agree (length_dataOf_translate h).symm (by omega) fun i hi => ?_
  by_cases hin : i < (dataOf ip).length
  · exact (byte_dataOf_translate h hin fun _ => by omega).symm
  · rw [Bytes.byte_of_ge (by omega), Bytes.byte_of_ge (by rw [length_dataOf_translate h]; omega)]

theorem field_translate_ne_zero (h : Rewritable ip ip.length) (hudp : HasUdp ip) :
    (dataOf (translate ip src dst)).net16 6 ≠ 0 := by
  have hfield := @udpField_translate ip src dst h hudp
  have hend := hudp.2
  rw [dataOf, Bytes.net16_slice (by rw [headerLen_translate h, totalLen_translate h]; omega),
    headerLen_translate h]
  exact hfield

/-- The checksum `udp_checksum` accepts. -/
theorem udpSum_of_checksum {b : Bytes} {hl total : Nat} (hlen : total ≤ 65535)
    (h : udpChecksum b hl total = 0xffff) : udpSum b hl total % 65535 = 0 := by
  rw [udpChecksum_eq _ hlen] at h
  dsimp only at h
  have hpos : udpSum b hl total ≠ 0 := by
    unfold udpSum
    omega
  have hfold := fold_lt (udpSum b hl total)
  have hmod := fold_mod (udpSum b hl total)
  have hzero := (fold_eq_zero (udpSum b hl total)).not.mpr hpos
  unfold complement16 at h
  split at h <;> omega

/-- The checksum written closes the sum over the data of the packet. -/
theorem closes_translate (h : Rewritable ip ip.length) (hudp : HasUdp ip) :
    Closes src dst 17 (dataOf (translate ip src dst)) := by
  have htotal : totalLen ip ≤ 65535 := by
    have := Bytes.net16_lt ip 2
    unfold totalLen
    omega
  have hlength := @length_translate ip src dst h
  have hend := hudp.2
  have hsum := udpSum_of_checksum htotal (@udpChecksum_translate ip src dst h hudp)
  rw [udpSum_slice (by omega) h.2.1] at hsum
  have haddr : (translate ip src dst).slice 12 8 = src.toList ++ dst.toList := by
    have h20 := h.1
    have hsrc := @Bytes.slice_eq_vecAt 4 (translate ip src dst) 12 (by omega)
    have hdst := @Bytes.slice_eq_vecAt 4 (translate ip src dst) 16 (by omega)
    rw [src_translate h] at hsrc
    rw [dst_translate h] at hdst
    rw [← hsrc, ← hdst]
    have hsplit := @List.take_add _ (List.drop 12 (translate ip src dst)) 4 4
    rw [List.drop_drop] at hsplit
    exact hsplit
  have hdata : (translate ip src dst).slice (headerLen ip) (totalLen ip - headerLen ip) =
      dataOf (translate ip src dst) := by
    rw [dataOf, headerLen_translate h, totalLen_translate h]
  rw [udpSum, haddr, hdata] at hsum
  rw [Closes, pseudoSum, length_dataOf_translate h, length_dataOf h]
  exact hsum

end Data

/-! ## One relay of one packet -/

/-- A relay function put `out` on an adapter for the packet `ip`, with these addresses. -/
inductive Hop : Bytes → Bytes → Ip4 → Ip4 → Prop
  | wifi (env : Env) (w : World) (frame : Bytes) {frames : List Injection} {i : Injection}
      (hsent : (after (lanPlayRelayWifiIpv4 env frame w)).sent = w.sent ++ frames)
      (hmem : i ∈ frames) (hip : OverlayIpv4 i) :
      Hop (packetOf frame) (payloadOf i.frame) w.lp.zerotierIp (overlayDst w.lp frame)
  | zerotier (env : Env) (w : World) (frame : Bytes) {out : Bytes} {probes : List Injection}
      (hsent : (after (lanPlayRelayZerotierIpv4 env frame w)).sent =
        w.sent ++ ⟨.wifi, out⟩ :: probes) :
      Hop (packetOf frame) (payloadOf out) (Frame.ipSrc frame)
        (if ToAll w.lp frame then w.lp.zerotierBroadcastIp else w.lp.switchIp)

/-- Both relay functions send what `rewrite_ipv4_addresses` leaves. -/
theorem Hop.translate {ip out : Bytes} {src dst : Ip4} (h : Hop ip out src dst) :
    Rewritable ip ip.length ∧ totalLen ip = ip.length ∧ out = translate ip src dst := by
  cases h with
  | wifi env w frame hsent hmem hip =>
    obtain ⟨frames', hsent', hframes⟩ := relayWifi_frames env frame w
    obtain rfl : frames' = _ := List.append_cancel_left (hsent'.symm.trans hsent)
    rcases hframes with rfl | ⟨⟨⟨_, hpacket, _⟩, _, hrewrite⟩, _, hframes⟩
    · cases hmem
    · obtain ⟨mac, rfl⟩ := overlayFrames_ipv4 hframes hmem hip
      rw [zerotierFrame, payloadOf_etherHeader]
      exact ⟨hrewrite, totalLen_eq_length hpacket hrewrite, rfl⟩
  | zerotier env w frame hsent =>
    by_cases hdeliver : Deliverable w.lp frame
    · rw [lanPlayRelayZerotierIpv4_delivered env frame w hdeliver, after_ok] at hsent
      obtain ⟨_, hpacket, _, hrewrite⟩ := hdeliver
      obtain ⟨probes', hsent', -⟩ := deliver_sent env frame w
      obtain ⟨hfirst, -⟩ := List.cons.inj (List.append_cancel_left (hsent'.symm.trans hsent))
      obtain rfl := (Injection.mk.inj hfirst).2
      rw [deliveredFrame, payloadOf_etherHeader]
      exact ⟨hrewrite, totalLen_eq_length hpacket hrewrite, rfl⟩
    · obtain ⟨warned, hrun⟩ := lanPlayRelayZerotierIpv4_declined env frame w hdeliver
      rw [hrun, after_ok] at hsent
      have hlen := congrArg List.length hsent
      simp at hlen

end Grid0Relay
