import Grid0Relay.Theorems.UdpProxy

/-!
# Two ways to a checksum

The relay path has `udp_checksum` and `ipv4_header_checksum`; the gateway's own packets go
through `calc_payload_checksum` and `calc_checksum`. The UDP routines differ where the
sum comes out as zero, and the plain ones in an odd last byte. Over a chain of parts the first
of the gateway's own is right only where the parts are cut at words.
-/

namespace Grid0Relay

open Lib Lib.Exec Lib.OnesComplement

/-! ## A chain of parts -/

/-- The checksum of RFC 1071. -/
def rfc1071 (b : Bytes) : Nat := complement16 (fold (wordSum b))

/-- What a 32-bit accumulator drops from a sum is nothing in ones' complement, and it does
not drop a sum altogether. -/
def CarriesKept (sum : Nat) : Prop :=
  sum / 2 ^ 32 % 65535 = 0 ∧ (sum % 2 ^ 32 = 0 → sum = 0)

/-- `2 ^ 32` is one modulo 65535, so each carry that is lost counts as one. -/
theorem complement16_fold_wrapped (sum : Nat) :
    complement16 (fold (sum % 2 ^ 32)) = complement16 (fold sum) ↔ CarriesKept sum := by
  rw [complement16_fold_inj, CarriesKept]
  omega

theorem carriesKept_of_lt {sum : Nat} (h : sum < 2 ^ 32) : CarriesKept sum := by
  unfold CarriesKept
  omega

/-- **Chains of parts.** `calc_payload_checksum` reads only its parts and comes to the RFC 1071
checksum of their concatenation exactly when no word is cut by a part of more than its other
byte, and the accumulator loses nothing. -/
theorem calcPayloadChecksum_rfc1071_iff (parts : List Bytes) (w : World) :
    calcPayloadChecksum parts w = .ok (rfc1071 parts.flatten) w ↔
      Aligned parts ∧ CarriesKept (wordSum parts.flatten) := by
  by_cases haligned : Aligned parts
  swap
  · rw [calcPayloadChecksum_unaligned haligned]
    exact iff_of_false (fun h => by cases h) fun h => haligned h.1
  obtain ⟨sum, hrun, hsum⟩ := addParts_aligned parts 0 haligned
  rw [UInt32.toNat_zero, Nat.zero_add] at hsum
  have hvalue : calcPayloadChecksum parts =
      pure (complement16 (fold (wordSum parts.flatten % 2 ^ 32))) := by
    rw [calcPayloadChecksum, hrun, pure_bind, reduceSum_eq_fold, hsum]
  rw [hvalue, and_iff_right haligned, ← complement16_fold_wrapped, rfc1071, pure_apply]
  exact ⟨fun h => by injection h, fun h => by rw [h]⟩

theorem calcPayloadChecksum_rfc1071_iff_parts :
    calcPayloadChecksum [[1, 2, 3], [4], [], [5]] consoleWorld =
      .ok (rfc1071 [1, 2, 3, 4, 5]) consoleWorld :=
  (calcPayloadChecksum_rfc1071_iff [[1, 2, 3], [4], [], [5]] consoleWorld).mpr
    ⟨by simp [Aligned], carriesKept_of_lt (by decide)⟩

/-- Two bytes behind an odd part: the loop starts at the third. -/
theorem odd_part_reads_behind :
    calcPayloadChecksum [[1], [2, 3]] = throw .readBounds :=
  calcPayloadChecksum_unaligned (by simp [Aligned])

/-! ## UDP -/

/-- The packet `send_udp_ex` makes, with a checksum field of zero. -/
def udpPacket (id : UInt16) (src : Ip4) (srcport : Nat) (dst : Ip4) (dstport : Nat)
    (payload : Bytes) : Bytes :=
  ipv4Header (28 + payload.length) id ipv4ProtocolUdp src dst ++
    (udpHeader srcport dstport (8 + payload.length) 0 ++ payload)

/-- What a UDP checksum covers: the pseudo-header, the header and the payload. -/
def covered (src : Ip4) (srcport : Nat) (dst : Ip4) (dstport : Nat) (payload : Bytes) : Bytes :=
  pseudoHeader src dst (8 + payload.length) ++
    (udpHeader srcport dstport (8 + payload.length) 0 ++ payload)

section Udp

variable {id : UInt16} {src : Ip4} {srcport : Nat} {dst : Ip4} {dstport : Nat}

theorem slice_addresses_ipv4Header (totalLen : Nat) (protocol : UInt8) :
    (ipv4Header totalLen id protocol src dst).slice 12 8 = src.toList ++ dst.toList := by
  rw [ipv4Header, Bytes.slice_put_outside (by simp) (by simp), Bytes.slice, List.append_assoc _ _
    dst.toList, List.drop_left' (by simp)]
  exact List.take_of_length_le (by simp)

theorem slice_addresses_udpPacket (payload : Bytes) :
    (udpPacket id src srcport dst dstport payload).slice 12 8 = src.toList ++ dst.toList := by
  rw [udpPacket, Bytes.slice, List.drop_append_of_le_length (by simp),
    List.take_append_of_le_length (by simp)]
  exact slice_addresses_ipv4Header _ _

theorem wordSum_covered {payload : Bytes} (h : payload.length ≤ 65507) :
    wordSum (covered src srcport dst dstport payload) =
      udpSum (udpPacket id src srcport dst dstport payload) 20 (28 + payload.length) := by
  have hsegment : (udpPacket id src srcport dst dstport payload).slice 20
      (28 + payload.length - 20) = udpHeader srcport dstport (8 + payload.length) 0 ++ payload := by
    have hlen : 28 + payload.length - 20 =
        (udpHeader srcport dstport (8 + payload.length) 0 ++ payload).length := by
      rw [List.length_append, length_udpHeader]
      omega
    rw [udpPacket, Bytes.slice, List.drop_left' (length_ipv4Header ..), hlen, List.take_length]
  have hproto : wordSum [0, ipv4ProtocolUdp] = 17 := rfl
  rw [udpSum, slice_addresses_udpPacket, hsegment, covered, wordSum_append _ _ (by simp),
    pseudoHeader, wordSum_append _ _ (by simp), wordSum_append _ _ (by simp), hproto,
    wordSum_bytes16 (by omega)]
  omega

theorem payloadTotalLen_whole (payload : List Bytes) :
    payloadTotalLen (payload.map Payload.whole) = payload.flatten.length % 65536 := by
  rw [payloadTotalLen, List.length_flatten, List.map_map]
  rfl

theorem udpLength_eq {payload : List Bytes} (h : payload.flatten.length ≤ 65507) :
    udpLength payload = 8 + payload.flatten.length := by
  rw [udpLength, payloadTotalLen_whole]
  omega

/-- The two routines sum the same bytes, but only one keeps clear of zero. -/
theorem sentChecksum_aligned {payload : List Bytes} (h : payload.flatten.length ≤ 65507)
    (haligned : Aligned payload) :
    sentChecksum src srcport dst dstport payload =
      pure (complement16 (fold (wordSum (covered src srcport dst dstport payload.flatten)))) := by
  rw [sentChecksum, udpLength_eq h,
    calcPayloadChecksum_aligned ((aligned_headers ..).mpr haligned) ?_]
  · rfl
  · simp only [List.flatten_cons, List.length_append, length_pseudoHeader, length_udpHeader]
    omega

end Udp

/-- **UDP checksums.** `send_udp_ex` writes what `udp_checksum` computes for the packet
exactly when the chain keeps its words together and the sum is not all ones. -/
theorem udp_checksums_agree_iff (id : UInt16) (src : Ip4) (srcport : Nat) (dst : Ip4)
    (dstport : Nat) (payload : List Bytes) (h : payload.flatten.length ≤ 65507) (w : World) :
    sentChecksum src srcport dst dstport payload w =
        .ok (udpChecksum (udpPacket id src srcport dst dstport payload.flatten) 20
          (28 + payload.flatten.length)) w ↔
      Aligned payload ∧
        wordSum (covered src srcport dst dstport payload.flatten) % 65535 ≠ 0 := by
  rw [udpChecksum_eq _ (by omega), ← wordSum_covered h]
  generalize hsum : wordSum (covered src srcport dst dstport payload.flatten) = sum
  by_cases haligned : Aligned payload
  swap
  · rw [sentChecksum, calcPayloadChecksum_unaligned (mt (aligned_headers ..).mp haligned)]
    exact iff_of_false (fun h => by cases h) fun h => haligned h.1
  have hpos : sum ≠ 0 := by
    rw [← hsum, @wordSum_covered id _ _ _ _ _ h, udpSum]
    omega
  have hzero : complement16 (fold sum) = 0 ↔ sum % 65535 = 0 := by
    have hlt := fold_lt sum
    have hmod := fold_mod sum
    have hne := fold_eq_zero sum
    unfold complement16
    omega
  rw [sentChecksum_aligned h haligned, hsum, pure_apply, and_iff_right haligned, ne_eq, ← hzero]
  by_cases hnone : complement16 (fold sum) = 0
  · simp [hnone]
  · simp [hnone]

theorem udp_checksums_agree_iff_odd :
    sentChecksum (ip4 8 8 8 8) 53 (ip4 10 147 17 20) 40000 [[1, 2, 3]] consoleWorld =
      .ok (udpChecksum (udpPacket 7 (ip4 8 8 8 8) 53 (ip4 10 147 17 20) 40000 [1, 2, 3]) 20 31)
        consoleWorld :=
  (udp_checksums_agree_iff 7 (ip4 8 8 8 8) 53 (ip4 10 147 17 20) 40000 [[1, 2, 3]] (by decide)
    consoleWorld).mpr ⟨trivial, by decide⟩

/-- A payload that completes the sum to all ones is sent as "no checksum". -/
theorem reply_without_checksum :
    sentChecksum (ip4 8 8 8 8) 53 (ip4 10 147 17 20) 40000 [[0x37, 0xae]] = pure 0 ∧
      udpChecksum (udpPacket 7 (ip4 8 8 8 8) 53 (ip4 10 147 17 20) 40000 [0x37, 0xae]) 20 30 =
        0xffff := by
  refine ⟨?_, by decide⟩
  rw [sentChecksum_aligned (by decide) (show Aligned [[0x37, 0xae]] from trivial)]
  exact congrArg pure (by decide)

/-! ## ICMP -/

/-- `process_icmp` gets as far as injecting its reply: the message is copied and fits, and
the MAC of the sender is known. -/
def EchoSent (env : Env) (frame : Bytes) (w : World) : Prop :=
  IcmpCopies frame ∧ 34 + icmpLen frame < bufferSize ∧
    (w.lp.packetCtx.arpList.lookup (Frame.ipSrc frame) (env.clock w.readings)).isSome

/-- The message has no odd last byte. Shorter ones have no whole checksum field, and only
one of them adds up by accident. -/
def IcmpSealed (frame : Bytes) : Prop :=
  if icmpLen frame < 4 then
    icmpLen frame = 3 ∧ frame.byte (14 + Frame.ipHeaderLen frame + 1) = 0xff
  else
    icmpLen frame % 2 = 0 ∨ frame.byte (14 + Frame.ipHeaderLen frame + (icmpLen frame - 1)) = 0

/-- The checksum of a message verifies. -/
def IcmpValid (icmp : Bytes) : Prop := fold (wordSum icmp) = 0xffff

section Reply

variable {frame : Bytes}

theorem length_icmpCleared (h : IcmpCopies frame) : (icmpCleared frame).length = bufferSize := by
  have harray := length_icmpArray h
  rw [bufferSize] at harray ⊢
  rw [icmpCleared, Bytes.length_put, Bytes.length_put]
  · exact harray
  · simp [harray]
  · rw [Bytes.length_put (by simp [harray])]
    simp [harray]

/-- The bytes of the message that are not overwritten. -/
theorem byte_icmpCleared (h : IcmpCopies frame) {i : Nat} (hi : i < icmpLen frame)
    (hkept : i = 1 ∨ 4 ≤ i) :
    (icmpCleared frame).byte i = frame.byte (14 + Frame.ipHeaderLen frame + i) := by
  have harray := length_icmpArray h
  rw [bufferSize] at harray
  have hdata : (frame.slice (14 + Frame.ipHeaderLen frame) (icmpLen frame)).length =
    icmpLen frame := Payload.Inside.length_bytes
      (show (⟨frame, 14 + Frame.ipHeaderLen frame, icmpLen frame⟩ : Payload).Inside from h.2.2)
  rw [icmpCleared, Bytes.byte_put_outside, Bytes.byte_put_outside, icmpArray,
    Bytes.byte_append_left (by rw [hdata]; exact hi), Bytes.byte_slice hi]
  · simp [harray]
  · simp only [List.length_singleton]
    omega
  · rw [Bytes.length_put (by simp [harray])]
    simp [harray]
  · simp only [Bytes.length_bytes16]
    omega

theorem byte_zero_icmpCleared (h : IcmpCopies frame) : (icmpCleared frame).byte 0 = 0 := by
  have harray := length_icmpArray h
  rw [bufferSize] at harray
  rw [icmpCleared, Bytes.byte_put_outside, Bytes.byte_put_inside]
  · rfl
  · simp [harray]
  · exact Nat.le_refl 0
  · simp
  · rw [Bytes.length_put (by simp [harray])]
    simp [harray]
  · simp

theorem net16_icmpCleared (h : IcmpCopies frame) : (icmpCleared frame).net16 2 = 0 := by
  have harray := length_icmpArray h
  rw [bufferSize] at harray
  rw [icmpCleared, Bytes.net16_put_self]
  · rw [Bytes.length_put (by simp [harray])]
    omega
  · decide

/-- A message with a whole checksum field. -/
theorem icmpValid_long (h : IcmpCopies frame) (hlong : 4 ≤ icmpLen frame) :
    IcmpValid ((icmpReply frame).slice 0 (icmpLen frame)) ↔
      icmpLen frame % 2 = 0 ∨
        frame.byte (14 + Frame.ipHeaderLen frame + (icmpLen frame - 1)) = 0 := by
  have hcleared := length_icmpCleared h
  have hfits : icmpLen frame ≤ bufferSize := h.2.1
  rw [bufferSize] at hcleared hfits
  have hlen : ((icmpCleared frame).slice 0 (icmpLen frame)).length = icmpLen frame := by
    rw [Bytes.length_slice]
    omega
  have hreply : (icmpReply frame).slice 0 (icmpLen frame) =
      ((icmpCleared frame).slice 0 (icmpLen frame)).put 2
        (Bytes.bytes16 (calcChecksum ((icmpCleared frame).slice 0 (icmpLen frame)))) :=
    @Bytes.slice_put_inside (icmpCleared frame) 0 2 _ _ (by simpa using hlong) (by omega)
  have hfield : ((icmpCleared frame).slice 0 (icmpLen frame)).net16 2 = 0 := by
    rw [Bytes.net16_slice (by omega), Nat.zero_add, net16_icmpCleared h]
  rw [IcmpValid, hreply, fold_put_calcChecksum rfl (by omega) (by omega) hfield, oddByte_eq_zero,
    hlen]
  by_cases heven : icmpLen frame % 2 = 0
  · exact iff_of_true (Or.inl heven) (Or.inl heven)
  · rw [Bytes.byte_slice (by omega), Nat.zero_add, byte_icmpCleared h (by omega) (by omega)]

theorem wordSum_short : ∀ b : Bytes, b.length ≤ 3 →
    wordSum b = (b.byte 0).toNat * 256 + (b.byte 1).toNat + (b.byte 2).toNat * 256
  | [], _ | [_], _ | [_, _], _ | [_, _, _], _ => by simp [wordSum, Bytes.byte]
  | _ :: _ :: _ :: _ :: _, h => absurd h (by simp)

/-- The first half of the field is all that is sent of the checksum of three bytes. -/
theorem byte_two_icmpReply (h : IcmpCopies frame) (hlen : icmpLen frame = 3) :
    ((icmpReply frame).byte 2).toNat = 255 := by
  have hcleared := length_icmpCleared h
  rw [bufferSize] at hcleared
  have hslice : ((icmpCleared frame).slice 0 3).length = 3 := by
    rw [Bytes.length_slice]
    omega
  obtain ⟨x, y, z, hbytes⟩ := List.length_eq_three.mp hslice
  have hbyte : ∀ i, i < 3 → (icmpCleared frame).byte i = Bytes.byte [x, y, z] i := by
    intro i hi
    rw [← hbytes, Bytes.byte_slice hi, Nat.zero_add]
  have hx : x = 0 := (hbyte 0 (by decide)).symm.trans (byte_zero_icmpCleared h)
  have hfield := net16_icmpCleared h
  rw [Bytes.net16, hbyte 2 (by decide)] at hfield
  have hz : z.toNat = 0 := by
    change z.toNat * 256 + _ = 0 at hfield
    omega
  have hcheck : calcChecksum ((icmpCleared frame).slice 0 3) = 65535 - y.toNat := by
    have hy := y.toNat_lt
    have hloose : looseSum [x, y, z] = y.toNat := by simp [looseSum, hx, hz]
    rw [hbytes, calcChecksum_eq (by simp), hloose, fold_of_lt (by omega), complement16]
    omega
  have hput : (icmpReply frame).byte 2 = UInt8.ofNat ((65535 - y.toNat) / 256) := by
    rw [icmpReply, hlen, show (icmpCleared frame).take 3 = (icmpCleared frame).slice 0 3 from rfl,
      hcheck, Bytes.byte_put_inside (by simp [hcleared]) (Nat.le_refl 2) (by simp)]
    rfl
  have hy := y.toNat_lt
  have hdiv : (65535 - y.toNat) / 256 = 255 := by omega
  rw [hput, hdiv]
  rfl

/-- A message without one. -/
theorem icmpValid_short (h : IcmpCopies frame) (hshort : icmpLen frame < 4) :
    IcmpValid ((icmpReply frame).slice 0 (icmpLen frame)) ↔
      icmpLen frame = 3 ∧ frame.byte (14 + Frame.ipHeaderLen frame + 1) = 0xff := by
  have hcleared := length_icmpCleared h
  rw [bufferSize] at hcleared
  have hkept : ∀ i, i < 2 → (icmpReply frame).byte i = (icmpCleared frame).byte i := by
    intro i hi
    rw [icmpReply, Bytes.byte_put_outside (by simp [hcleared]) (by simp; omega)]
  have hfirst : ((icmpReply frame).slice 0 (icmpLen frame)).byte 0 = 0 := by
    by_cases hpos : 0 < icmpLen frame
    · rw [Bytes.byte_slice hpos, Nat.zero_add, hkept 0 (by decide), byte_zero_icmpCleared h]
    · exact Bytes.byte_of_ge (by rw [Bytes.length_slice]; omega)
  have hlt := (((icmpReply frame).slice 0 (icmpLen frame)).byte 1).toNat_lt
  rw [IcmpValid, wordSum_short _ (by rw [Bytes.length_slice]; omega), hfirst, UInt8.toNat_zero,
    Nat.zero_mul, Nat.zero_add]
  by_cases hthree : icmpLen frame = 3
  swap
  · have hlast : ((icmpReply frame).slice 0 (icmpLen frame)).byte 2 = 0 :=
      Bytes.byte_of_ge (by rw [Bytes.length_slice]; omega)
    rw [hlast, UInt8.toNat_zero, fold_of_lt (by omega)]
    exact iff_of_false (by omega) fun h => hthree h.1
  have hcode : ((icmpReply frame).slice 0 (icmpLen frame)).byte 1 =
      frame.byte (14 + Frame.ipHeaderLen frame + 1) := by
    rw [Bytes.byte_slice (by omega), Nat.zero_add, hkept 1 (by decide),
      byte_icmpCleared h (by omega) (Or.inl rfl)]
  have hlast : (((icmpReply frame).slice 0 (icmpLen frame)).byte 2).toNat = 255 := by
    rw [Bytes.byte_slice (by omega), Nat.zero_add, byte_two_icmpReply h hthree]
  rw [hlast, fold_of_lt (by omega), and_iff_right hthree, ← hcode, ← UInt8.toNat_inj]
  show _ ↔ _ = 255
  omega

theorem icmpValid_iff (h : IcmpCopies frame) :
    IcmpValid ((icmpReply frame).slice 0 (icmpLen frame)) ↔ IcmpSealed frame := by
  rw [IcmpSealed]
  split
  · rename_i hshort
    exact icmpValid_short h hshort
  · exact icmpValid_long h (by omega)

end Reply

/-- Every IPv4 packet among the new frames has a valid ICMP message. -/
def RepliesValid (w w' : World) : Prop :=
  ∀ i ∈ newFrames w w', Frame.etherType i.frame = etherTypeIpv4 → IcmpValid (i.frame.drop 34)

theorem repliesValid_nil {w w' : World} (h : w'.sent = w.sent) : RepliesValid w w' := by
  rw [RepliesValid, newFrames_append (h.trans (List.append_nil _).symm)]
  exact fun i hi => absurd hi List.not_mem_nil

theorem repliesValid_sent {w w' : World} {i : Injection} (h : w'.sent = w.sent ++ [i]) :
    RepliesValid w w' ↔
      (Frame.etherType i.frame = etherTypeIpv4 → IcmpValid (i.frame.drop 34)) := by
  rw [RepliesValid, newFrames_append h, List.forall_mem_singleton]

/-- What `process_icmp` injects. -/
theorem repliesValid_processIcmp (env : Env) (frame : Bytes) (w : World) :
    RepliesValid w (after (processIcmp env frame (ipv4Of frame) w)) ↔
      (EchoSent env frame w → IcmpSealed frame) := by
  by_cases hcopies : IcmpCopies frame
  swap
  · obtain ⟨e, -, hfault⟩ := processIcmp_outside env hcopies w
    rw [hfault]
    exact iff_of_true (repliesValid_nil rfl) fun h => absurd h.1 hcopies
  obtain ⟨hin, hrun⟩ := processIcmp_copied env hcopies w
  have hall : ∀ p ∈ [(⟨icmpReply frame, 0, icmpLen frame⟩ : Payload)], p.Inside := by simpa using hin
  have hsum : ([(⟨icmpReply frame, 0, icmpLen frame⟩ : Payload)].map Payload.len).sum =
    icmpLen frame := by simp
  rw [hrun]
  cases hfound : w.lp.packetCtx.arpList.lookup (Frame.ipSrc frame) (env.clock w.readings) with
  | none =>
    rw [bind_ok (sendIpv4_eq.trans (sendIpv4Ex_unknown hfound))]
    refine iff_of_true ((@repliesValid_sent w _
      ⟨.wifi, arpRequestFrame w.lp (Frame.ipSrc frame)⟩ rfl).mpr fun htype => ?_) fun h => ?_
    · exact absurd ((etherType_etherHeader _ _ _ _ (by decide)).symm.trans htype) (by decide)
    · exact absurd h.2.2 (by simp [hfound])
  | some item =>
    by_cases hfits : 34 + icmpLen frame < bufferSize
    · obtain ⟨ret, w', hsend, hsent⟩ := @sendIpv4Ex_ok env w.lp.packetCtx.ip _ ipv4ProtocolIcmp _ w
        item hfound hall (by rw [hsum]; exact hfits)
      have hecho : EchoSent env frame w := ⟨hcopies, hfits, by simp [hfound]⟩
      rw [bind_ok (sendIpv4_eq.trans hsend)]
      refine (@repliesValid_sent w w' _ hsent).trans ?_
      rw [forall_prop_of_true (etherType_etherHeader _ _ _ _ (by decide)),
        forall_prop_of_true hecho, ← icmpValid_iff hcopies, ← List.append_assoc,
        List.drop_left' (by simp), List.flatMap_singleton]
      rfl
    · obtain ⟨w', hsend, hsent⟩ := @sendIpv4Ex_full env w.lp.packetCtx.ip _ ipv4ProtocolIcmp _ w
        item hfound hall (by rw [hsum]; omega)
      rw [bind_error (sendIpv4_eq.trans hsend)]
      exact iff_of_true (repliesValid_nil hsent) fun h => absurd h.2.1 hfits

/-- **ICMP and IP checksums.** `calc_checksum` is `ipv4_header_checksum` exactly on byte
strings without an odd last byte other than zero, and the same decides whether the reply to
a ping verifies. -/
theorem icmp_checksums_agree_iff (env : Env) (frame : Bytes) (w : World) :
    (∀ b : Bytes, b.length ≤ 65535 →
      (calcChecksum b = ipv4HeaderChecksum b ↔ b.length % 2 = 0 ∨ b.byte (b.length - 1) = 0)) ∧
    (RepliesValid w (after (processIcmp env frame (ipv4Of frame) w)) ↔
      (EchoSent env frame w → IcmpSealed frame)) := by
  refine ⟨fun b hlen => ?_, repliesValid_processIcmp env frame w⟩
  rw [calcChecksum_eq_ipv4HeaderChecksum hlen, oddByte_eq_zero]

/-- An echo request of the console to the gateway. -/
def echoFrame (data : Bytes) : Bytes :=
  etherHeader (mac6 0x02 0 0 0 0 0x10) (mac6 0x98 0xb6 0xe9 1 2 3) etherTypeIpv4 ++
    ipv4Header (28 + data.length) 0 ipv4ProtocolIcmp (ip4 10 147 17 20) (ip4 10 147 17 1) ++
    [8, 0] ++ Bytes.bytes16 0 ++ [0, 1, 0, 1] ++ data

theorem icmp_checksums_agree_iff_ping :
    calcChecksum [1, 2, 3, 4] = ipv4HeaderChecksum [1, 2, 3, 4] ∧
      EchoSent (calmEnv 1010) (echoFrame [1, 2]) consoleWorld ∧
      RepliesValid consoleWorld
        (after (processIcmp (calmEnv 1010) (echoFrame [1, 2]) (ipv4Of (echoFrame [1, 2]))
          consoleWorld)) := by
  obtain ⟨hsums, hreply⟩ := icmp_checksums_agree_iff (calmEnv 1010) (echoFrame [1, 2]) consoleWorld
  refine ⟨(hsums [1, 2, 3, 4] (by decide)).mpr (Or.inl rfl), ?_, hreply.mpr fun _ => ?_⟩
  · unfold EchoSent IcmpCopies
    decide +kernel
  · rw [IcmpSealed, if_neg (by decide)]
    exact Or.inl (by decide)

/-- A ping with one byte of data gets a reply whose sum is 255. -/
theorem odd_ping_reply_invalid :
    calcChecksum [1] ≠ ipv4HeaderChecksum [1] ∧ Reachable consoleWorld ∧
      (newFrames consoleWorld (after (processIcmp (calmEnv 1010) (echoFrame [1])
        (ipv4Of (echoFrame [1])) consoleWorld))).map
          (fun i => (Frame.etherType i.frame, fold (wordSum (i.frame.drop 34)))) =
        [(etherTypeIpv4, 255)] :=
  ⟨by decide, consoleWorld_reachable, by decide +kernel⟩

end Grid0Relay
