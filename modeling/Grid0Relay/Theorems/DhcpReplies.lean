import Grid0Relay.Logic.Transport
import Grid0Relay.Theorems.DhcpParse

/-!
# The replies of the DHCP server

What a client decodes from a reply, and to which messages the server replies.
-/

namespace Grid0Relay

open Lib Lib.Exec

/-! ## Decoding -/

/-- A BOOTP message with its options in order. -/
structure BootMessage where
  op : UInt8
  xid : Nat
  flags : Nat
  yiaddr : Ip4
  siaddr : Ip4
  chaddr : Mac
  cookie : Nat
  options : List (UInt8 × Bytes)
deriving DecidableEq

/-- The code/length/value options in front of END. -/
def decodeOptions : Nat → Bytes → Option (List (UInt8 × Bytes))
  | 0, _ => none
  | _ + 1, [] => none
  | fuel + 1, code :: rest =>
    if code = 255 then some []
    else if code = 0 then decodeOptions fuel rest
    else
      match rest with
      | [] => none
      | len :: rest =>
        if len.toNat ≤ rest.length then
          (decodeOptions fuel (rest.drop len.toNat)).map ((code, rest.take len.toNat) :: ·)
        else none

/-- What a client makes of a DHCP message. -/
def decodeMessage (message : Bytes) : Option BootMessage :=
  (decodeOptions message.length (message.drop 240)).map fun options =>
    { op := message.byte 0
      xid := message.net16 4 * 65536 + message.net16 6
      flags := message.net16 10
      yiaddr := message.vecAt 4 16
      siaddr := message.vecAt 4 20
      chaddr := message.vecAt 6 28
      cookie := message.net16 236 * 65536 + message.net16 238
      options }

/-- The options the server means to send. -/
def grantedOptions (lp : LanPlay) (msgType : UInt8) : List (UInt8 × Bytes) :=
  (53, [msgType]) :: if msgType = dhcpMsgNak then [] else
    [(54, lp.packetCtx.ip.toList), (51, [0, 0, 14, 16]), (1, lp.zerotierNetmask.toList),
      (3, lp.packetCtx.ip.toList), (6, lp.packetCtx.ip.toList),
      (28, lp.zerotierBroadcastIp.toList)]

theorem decodeOptions_dhcpOpt {fuel : Nat} {code : UInt8} {data rest : Bytes} (hend : code ≠ 255)
    (hpad : code ≠ 0) (hlen : data.length < 256) :
    decodeOptions (fuel + 1) (dhcpOpt code data ++ rest) =
      (decodeOptions fuel rest).map ((code, data) :: ·) := by
  have hsize : (UInt8.ofNat data.length).toNat = data.length := Bytes.toNat_ofNat_byte hlen
  simp only [dhcpOpt, List.cons_append, decodeOptions]
  rw [if_neg hend, if_neg hpad, hsize, if_pos (by simp), List.drop_left, List.take_left]

theorem decodeOptions_end (fuel : Nat) (rest : Bytes) :
    decodeOptions (fuel + 1) (255 :: rest) = some [] := by
  simp [decodeOptions]

theorem decodeOptions_dhcpReplyOptions (lp : LanPlay) (msgType : UInt8) (rest : Bytes)
    {fuel : Nat} (hfuel : 8 ≤ fuel) :
    decodeOptions fuel (dhcpReplyOptions lp msgType ++ rest) = some (grantedOptions lp msgType) := by
  obtain ⟨fuel, rfl⟩ : ∃ k, fuel = k + 8 := ⟨fuel - 8, by omega⟩
  by_cases hnak : msgType = dhcpMsgNak
  · simp only [dhcpReplyOptions, hnak, ne_eq, not_true_eq_false, if_false, List.append_nil,
      List.append_assoc, List.singleton_append]
    rw [decodeOptions_dhcpOpt (by decide) (by decide) (by decide), decodeOptions_end]
    simp [grantedOptions]
  · simp only [dhcpReplyOptions, ne_eq, hnak, not_false_eq_true, if_true, List.append_assoc,
      List.singleton_append]
    iterate 7 rw [decodeOptions_dhcpOpt (by decide) (by decide) (by simp)]
    rw [decodeOptions_end]
    simp [grantedOptions, hnak]
    decide

section Message

variable (lp : LanPlay) (id : UInt16) (dstMac : Mac) (req : DhcpRequest) (msgType : UInt8)
  (yiaddr : Ip4)

/-- The 240 bytes in front of the options. -/
def replyFixed : Bytes :=
  replyStart req ++ (yiaddr.toList ++ (lp.packetCtx.ip.toList ++ ([0, 0, 0, 0] ++
    (dstMac.toList ++ (List.replicate 202 0 ++ (Bytes.bytes16 0x6382 ++ Bytes.bytes16 0x5363))))))

theorem length_replyFixed : (replyFixed lp dstMac req yiaddr).length = 240 := by
  simp only [replyFixed, replyStart, List.length_append, List.length_replicate, List.length_cons,
    List.length_nil, Bytes.length_bytes16, Vector.length_toList]

theorem dhcpReplyMessage_fixed : ∃ pad, dhcpReplyMessage lp dstMac req msgType yiaddr =
    replyFixed lp dstMac req yiaddr ++ (dhcpReplyOptions lp msgType ++ pad) := by
  refine ⟨?_, ?_⟩
  rotate_left
  · simp only [dhcpReplyMessage, replyFixed, replyStart, List.append_assoc]
    rfl

variable {req}

theorem decodeMessage_dhcpReplyMessage (hxid : req.xid < 2 ^ 32) (hflags : req.flags < 2 ^ 16) :
    decodeMessage (dhcpReplyMessage lp dstMac req msgType yiaddr) =
      some ⟨2, req.xid, req.flags, yiaddr, lp.packetCtx.ip, dstMac, 0x63825363,
        grantedOptions lp msgType⟩ := by
  obtain ⟨pad, hmessage⟩ := dhcpReplyMessage_fixed lp dstMac req msgType yiaddr
  have hlen := length_dhcpReplyMessage lp dstMac req msgType yiaddr
  have hfixed := length_replyFixed lp dstMac req yiaddr
  rw [decodeMessage, hlen, hmessage, List.drop_left' hfixed,
    decodeOptions_dhcpReplyOptions lp msgType pad (by omega)]
  generalize dhcpReplyOptions lp msgType ++ pad = rest
  have hxidHigh : (replyFixed lp dstMac req yiaddr ++ rest).net16 4 = req.xid / 65536 := by
    show (Bytes.bytes16 (req.xid / 65536)).net16 0 = _
    rw [Bytes.net16_bytes16]
    omega
  have hxidLow : (replyFixed lp dstMac req yiaddr ++ rest).net16 6 = req.xid % 65536 :=
    Bytes.net16_bytes16 req.xid
  have hflags' : (replyFixed lp dstMac req yiaddr ++ rest).net16 10 = req.flags := by
    show (Bytes.bytes16 req.flags).net16 0 = _
    rw [Bytes.net16_bytes16]
    omega
  have hyiaddr : Bytes.vecAt 4 (replyFixed lp dstMac req yiaddr ++ rest) 16 = yiaddr := by
    simp only [replyFixed, List.append_assoc]
    exact Bytes.vecAt_append_field yiaddr (replyStart req) _
  have hsiaddr : Bytes.vecAt 4 (replyFixed lp dstMac req yiaddr ++ rest) 20 = lp.packetCtx.ip := by
    simp only [replyFixed, List.append_assoc]
    rw [← List.append_assoc (replyStart req)]
    exact Bytes.vecAt_append_at _ _ (by rw [List.length_append, Vector.length_toList]; rfl)
  have hchaddr : Bytes.vecAt 6 (replyFixed lp dstMac req yiaddr ++ rest) 28 = dstMac := by
    simp only [replyFixed, List.append_assoc]
    rw [← List.append_assoc (replyStart req), ← List.append_assoc, ← List.append_assoc]
    refine Bytes.vecAt_append_at _ _ ?_
    simp only [List.length_append, Vector.length_toList]
    rfl
  have hcookie : ∀ i, i < 4 → (replyFixed lp dstMac req yiaddr ++ rest).byte (236 + i) =
      (Bytes.bytes16 0x6382 ++ Bytes.bytes16 0x5363).byte i := by
    intro i hi
    have hfront : (replyStart req ++ (yiaddr.toList ++ (lp.packetCtx.ip.toList ++ ([0, 0, 0, 0] ++
        (dstMac.toList ++ List.replicate 202 0))))).length = 236 := by
      simp only [replyStart, List.length_append, List.length_replicate, List.length_cons,
        List.length_nil, Bytes.length_bytes16, Vector.length_toList]
    have hsplit : replyFixed lp dstMac req yiaddr ++ rest = (replyStart req ++ (yiaddr.toList ++
        (lp.packetCtx.ip.toList ++ ([0, 0, 0, 0] ++ (dstMac.toList ++ List.replicate 202 0))))) ++
        ((Bytes.bytes16 0x6382 ++ Bytes.bytes16 0x5363) ++ rest) := by
      simp only [replyFixed, List.append_assoc]
    rw [hsplit, Bytes.byte_append_right (by omega), hfront, Nat.add_sub_cancel_left,
      Bytes.byte_append_left (by simpa using hi)]
  have hmagic : (replyFixed lp dstMac req yiaddr ++ rest).net16 236 * 65536 +
      (replyFixed lp dstMac req yiaddr ++ rest).net16 238 = 0x63825363 := by
    rw [Bytes.net16, Bytes.net16, hcookie 0 (by omega), hcookie 1 (by omega), hcookie 2 (by omega),
      hcookie 3 (by omega)]
    decide
  rw [Option.map_some, hxidHigh, hxidLow, hflags', hyiaddr, hsiaddr, hchaddr, hmagic,
    Nat.div_add_mod']
  rfl

/-! ## Checksums -/

/-- The address replies are sent to. -/
def limitedBroadcast : Ip4 := ip4 255 255 255 255

variable (req)

/-- The header fields of the blank packet. -/
theorem fields_dhcpReplyBlank :
    (dhcpReplyBlank lp id dstMac req msgType yiaddr).byte 0 = 0x45 ∧
      (dhcpReplyBlank lp id dstMac req msgType yiaddr).byte 9 = ipv4ProtocolUdp ∧
      (dhcpReplyBlank lp id dstMac req msgType yiaddr).net16 2 = 328 ∧
      (dhcpReplyBlank lp id dstMac req msgType yiaddr).net16 10 = 0 := by
  unfold dhcpReplyBlank
  generalize dhcpReplyMessage lp dstMac req msgType yiaddr = message
  simp only [List.append_assoc]
  generalize lp.packetCtx.ip.toList ++ _ = rest
  have hblank : (0 : UInt8).toNat * 256 + (0 : UInt8).toNat = 0 := by decide
  exact ⟨rfl, rfl, Bytes.net16_bytes16 328, hblank⟩

/-- The addresses and the UDP header of the blank packet. -/
theorem udp_dhcpReplyBlank :
    (dhcpReplyBlank lp id dstMac req msgType yiaddr).vecAt 4 12 = lp.packetCtx.ip ∧
      (dhcpReplyBlank lp id dstMac req msgType yiaddr).vecAt 4 16 = limitedBroadcast ∧
      (dhcpReplyBlank lp id dstMac req msgType yiaddr).net16 24 = 308 ∧
      (dhcpReplyBlank lp id dstMac req msgType yiaddr).net16 26 = 0 := by
  unfold dhcpReplyBlank
  generalize dhcpReplyMessage lp dstMac req msgType yiaddr = message
  simp only [List.append_assoc]
  have hfront : ([0x45, 0] ++ (Bytes.bytes16 328 ++ (Bytes.bytes16 id.toNat ++
      [0, 0, 64, ipv4ProtocolUdp, 0, 0]))).length = 12 := rfl
  have hip := lp.packetCtx.ip.length_toList
  have hblank : (0 : UInt8).toNat * 256 + (0 : UInt8).toNat = 0 := by decide
  simp only [← List.append_assoc _ _ (lp.packetCtx.ip.toList ++ _)]
  -- everything from the destination on lies behind 16 bytes
  have hbehind : ∀ i, Bytes.byte (([0x45, 0] ++ (Bytes.bytes16 328 ++ (Bytes.bytes16 id.toNat ++
      [0, 0, 64, ipv4ProtocolUdp, 0, 0]))) ++ (lp.packetCtx.ip.toList ++ ([255, 255, 255, 255] ++
      (Bytes.bytes16 67 ++ (Bytes.bytes16 68 ++ (Bytes.bytes16 308 ++ ([0, 0] ++ message))))))) (16 + i) =
      Bytes.byte ([255, 255, 255, 255] ++ (Bytes.bytes16 67 ++ (Bytes.bytes16 68 ++
        (Bytes.bytes16 308 ++ ([0, 0] ++ message))))) i := by
    intro i
    have hsub : 16 + i - 12 - 4 = i := by omega
    rw [Bytes.byte_append_right (by omega), Bytes.byte_append_right (by omega), hfront, hip, hsub]
  refine ⟨Bytes.vecAt_append_at _ _ hfront, ?_, ?_, ?_⟩
  · have hdst := Bytes.vecAt_append_at limitedBroadcast (a := []) (Bytes.bytes16 67 ++
      (Bytes.bytes16 68 ++ (Bytes.bytes16 308 ++ ([0, 0] ++ message)))) rfl
    refine Eq.trans (Bytes.vecAt_eq_iff.mpr fun k _ => ?_) hdst
    rw [hbehind, List.length_nil, Nat.zero_add]
    rfl
  · rw [Bytes.net16, hbehind 8, hbehind 9]
    exact Bytes.net16_bytes16 308
  · rw [Bytes.net16, hbehind 10, hbehind 11]
    exact hblank

theorem headerLen_dhcpReplyBlank : headerLen (dhcpReplyBlank lp id dstMac req msgType yiaddr) = 20 := by
  rw [headerLen, (fields_dhcpReplyBlank lp id dstMac req msgType yiaddr).1]
  decide

theorem totalLen_dhcpReplyBlank : totalLen (dhcpReplyBlank lp id dstMac req msgType yiaddr) = 328 :=
  (fields_dhcpReplyBlank lp id dstMac req msgType yiaddr).2.2.1

theorem rewritable_dhcpReplyBlank : Rewritable (dhcpReplyBlank lp id dstMac req msgType yiaddr)
    (dhcpReplyBlank lp id dstMac req msgType yiaddr).length := by
  rw [Rewritable, length_dhcpReplyBlank, headerLen_dhcpReplyBlank, totalLen_dhcpReplyBlank]
  decide

theorem hasUdp_dhcpReplyBlank : HasUdp (dhcpReplyBlank lp id dstMac req msgType yiaddr) := by
  refine ⟨(fields_dhcpReplyBlank lp id dstMac req msgType yiaddr).2.1, ?_⟩
  rw [headerLen_dhcpReplyBlank, totalLen_dhcpReplyBlank]
  decide

/-- The packet is the blank one with its checksums filled in as a translation does. -/
theorem dhcpReplyPacket_translate : dhcpReplyPacket lp id dstMac req msgType yiaddr =
    translate (dhcpReplyBlank lp id dstMac req msgType yiaddr) lp.packetCtx.ip limitedBroadcast := by
  have hlen := length_dhcpReplyBlank lp id dstMac req msgType yiaddr
  have hhead := headerLen_dhcpReplyBlank lp id dstMac req msgType yiaddr
  have htotal := totalLen_dhcpReplyBlank lp id dstMac req msgType yiaddr
  have hudp := hasUdp_dhcpReplyBlank lp id dstMac req msgType yiaddr
  obtain ⟨-, -, -, hsum⟩ := fields_dhcpReplyBlank lp id dstMac req msgType yiaddr
  obtain ⟨hsrc, hdst, -, hudpSum⟩ := udp_dhcpReplyBlank lp id dstMac req msgType yiaddr
  have hpacket : dhcpReplyPacket lp id dstMac req msgType yiaddr =
      let ip := dhcpReplyBlank lp id dstMac req msgType yiaddr
      let ip := ip.put 10 (Bytes.bytes16 (ipv4HeaderChecksum (ip.take 20)))
      ip.put 26 (Bytes.bytes16 (udpChecksum ip 20 328)) := rfl
  generalize dhcpReplyBlank lp id dstMac req msgType yiaddr = blank at *
  dsimp only at hpacket
  have hself : readdress blank lp.packetCtx.ip limitedBroadcast = blank := by
    rw [← hsrc, ← hdst, readdress_self (by omega)]
  have hzero : blank.put 10 (Bytes.bytes16 0) = blank := by
    rw [← hsum, Bytes.put_net16_self (by omega)]
  rw [hpacket, translate, hself, if_pos hudp, hhead, htotal, sealHeader_put (by omega), hzero]
  have hslice : blank.slice 0 20 = blank.take 20 := rfl
  rw [hslice]
  generalize hsealed : blank.put 10 (Bytes.bytes16 (ipv4HeaderChecksum (blank.take 20))) = sealed
  have hlength : sealed.length = 328 := by
    rw [← hsealed, Bytes.length_put (by simp [hlen]), hlen]
  have hfield : sealed.net16 26 = 0 := by
    rw [← hsealed, Bytes.net16_put_outside (by simp [hlen]) (by simp), hudpSum]
  have hblank : sealed.put (20 + 6) (Bytes.bytes16 0) = sealed := by
    rw [← hfield]
    exact Bytes.put_net16_self (by omega)
  have hwhole : sealed.slice 0 328 = sealed := by
    rw [Bytes.slice, List.drop_zero, List.take_of_length_le (by omega)]
  rw [sealUdp_put (by omega), hblank, hwhole]

theorem headerLen_dhcpReplyPacket :
    headerLen (dhcpReplyPacket lp id dstMac req msgType yiaddr) = 20 := by
  rw [dhcpReplyPacket_translate, headerLen_translate (rewritable_dhcpReplyBlank ..),
    headerLen_dhcpReplyBlank]

theorem totalLen_dhcpReplyPacket :
    totalLen (dhcpReplyPacket lp id dstMac req msgType yiaddr) = 328 := by
  rw [dhcpReplyPacket_translate, totalLen_translate (rewritable_dhcpReplyBlank ..),
    totalLen_dhcpReplyBlank]

theorem ipv4HeaderChecksum_dhcpReplyPacket :
    ipv4HeaderChecksum ((dhcpReplyPacket lp id dstMac req msgType yiaddr).take 20) = 0 := by
  have hsum := @ipv4HeaderChecksum_translate _ lp.packetCtx.ip limitedBroadcast
    (rewritable_dhcpReplyBlank lp id dstMac req msgType yiaddr)
  rwa [headerLen_dhcpReplyBlank, ← dhcpReplyPacket_translate] at hsum

theorem net16_dataOf_dhcpReplyPacket {i : Nat} (h : i + 2 ≤ 308) :
    (dataOf (dhcpReplyPacket lp id dstMac req msgType yiaddr)).net16 i =
      (dhcpReplyPacket lp id dstMac req msgType yiaddr).net16 (20 + i) := by
  rw [dataOf, headerLen_dhcpReplyPacket, totalLen_dhcpReplyPacket, Bytes.net16_slice h]

theorem length_dataOf_dhcpReplyPacket :
    (dataOf (dhcpReplyPacket lp id dstMac req msgType yiaddr)).length = 308 := by
  rw [dataOf, headerLen_dhcpReplyPacket, totalLen_dhcpReplyPacket, Bytes.length_slice,
    length_dhcpReplyPacket]
  rfl

/-- The UDP checksum is there and verifies over the whole datagram. -/
theorem udpValid_dhcpReplyPacket :
    (dataOf (dhcpReplyPacket lp id dstMac req msgType yiaddr)).net16 6 ≠ 0 ∧
      UdpValid lp.packetCtx.ip limitedBroadcast
        (dataOf (dhcpReplyPacket lp id dstMac req msgType yiaddr)) := by
  have hrewritable := rewritable_dhcpReplyBlank lp id dstMac req msgType yiaddr
  have hudp := hasUdp_dhcpReplyBlank lp id dstMac req msgType yiaddr
  have hlen := length_dataOf_dhcpReplyPacket lp id dstMac req msgType yiaddr
  have hdeclared : declaredLen (dataOf (dhcpReplyPacket lp id dstMac req msgType yiaddr)) = 308 := by
    have hhead := headerLen_dhcpReplyBlank lp id dstMac req msgType yiaddr
    rw [declaredLen, net16_dataOf_dhcpReplyPacket _ _ _ _ _ _ (by omega), dhcpReplyPacket_translate,
      Bytes.net16, byte_translate hrewritable (by omega) (by omega),
      byte_translate hrewritable (by omega) (by omega), ← Bytes.net16]
    exact (udp_dhcpReplyBlank lp id dstMac req msgType yiaddr).2.2.1
  have hcloses : Closes lp.packetCtx.ip limitedBroadcast 17
      (dataOf (dhcpReplyPacket lp id dstMac req msgType yiaddr)) := by
    rw [dhcpReplyPacket_translate]
    exact closes_translate hrewritable hudp
  refine ⟨?_, by omega, by omega, Or.inr ?_⟩
  · rw [dhcpReplyPacket_translate]
    exact field_translate_ne_zero hrewritable hudp
  · rwa [hdeclared, List.take_of_length_le (by omega)]

theorem drop_dhcpReplyPacket : (dhcpReplyPacket lp id dstMac req msgType yiaddr).drop 28 =
    dhcpReplyMessage lp dstMac req msgType yiaddr := by
  have hlen := length_dhcpReplyPacket lp id dstMac req msgType yiaddr
  refine Bytes.ext_byte ?_ fun i _ => ?_
  · rw [List.length_drop, hlen, length_dhcpReplyMessage]
  · rw [Bytes.byte_drop, byte_dhcpReplyPacket]

end Message

/-- The packet `dhcp_send_reply` sends: 328 bytes of which the options end inside the
300 of the message, both checksums verify, and a client decodes the request's
transaction, the given address, the gateway and just the options meant. -/
theorem dhcp_reply_encoding (env : Env) (w : World) (dstMac : Mac) (req : DhcpRequest)
    (msgType : UInt8) (yiaddr : Ip4) (hxid : req.xid < 2 ^ 32) (hflags : req.flags < 2 ^ 16) :
    ∃ packet : Bytes,
      (after (dhcpSendReply env dstMac req msgType yiaddr w)).sent =
          w.sent ++ [⟨.wifi, etherHeader broadcastMac w.lp.wifiMac etherTypeIpv4 ++ packet⟩] ∧
        packet.length = 328 ∧ 240 + (dhcpReplyOptions w.lp msgType).length ≤ 300 ∧
        (packet.drop 28).length = 300 ∧
        ipv4HeaderChecksum (packet.take 20) = 0 ∧
        (dataOf packet).net16 6 ≠ 0 ∧ UdpValid w.lp.packetCtx.ip limitedBroadcast (dataOf packet) ∧
        decodeMessage (packet.drop 28) =
          some ⟨2, req.xid, req.flags, yiaddr, w.lp.packetCtx.ip, dstMac, 0x63825363,
            grantedOptions w.lp msgType⟩ := by
  have hudp := udpValid_dhcpReplyPacket w.lp (w.dhcpIpId + 1) dstMac req msgType yiaddr
  refine ⟨dhcpReplyPacket w.lp (w.dhcpIpId + 1) dstMac req msgType yiaddr, ?_,
    length_dhcpReplyPacket .., ?_, ?_, ipv4HeaderChecksum_dhcpReplyPacket .., hudp.1, hudp.2, ?_⟩
  · rw [dhcpSendReply_eq, after_ok]
    rfl
  · have hmessage := length_dhcpReplyMessage w.lp dstMac req msgType yiaddr
    obtain ⟨pad, hfixed⟩ := dhcpReplyMessage_fixed w.lp dstMac req msgType yiaddr
    rw [hfixed, List.length_append, List.length_append, length_replyFixed] at hmessage
    omega
  · rw [drop_dhcpReplyPacket, length_dhcpReplyMessage]
  · rw [drop_dhcpReplyPacket, decodeMessage_dhcpReplyMessage _ _ _ _ hxid hflags]

/-- A REQUEST of the first console, as parsed. -/
def parsedRequest : DhcpRequest :=
  ⟨0x12345678, 0x8000, firstConsole, dhcpMsgRequest, noneIp, false, noneIp, false, noneIp⟩

theorem dhcp_reply_encoding_ack : ∃ packet : Bytes,
    (after (dhcpSendReply (serverEnv 1000) firstConsole parsedRequest dhcpMsgAck (ip4 10 147 17 5)
      plainWorld)).sent = plainWorld.sent ++
        [⟨.wifi, etherHeader broadcastMac plainWorld.lp.wifiMac etherTypeIpv4 ++ packet⟩] ∧
      decodeMessage (packet.drop 28) =
        some ⟨2, 0x12345678, 0x8000, ip4 10 147 17 5, plainWorld.lp.packetCtx.ip, firstConsole,
          0x63825363, grantedOptions plainWorld.lp dhcpMsgAck⟩ := by
  obtain ⟨packet, hsent, -, -, -, -, -, -, hdecode⟩ := dhcp_reply_encoding (serverEnv 1000) plainWorld
    firstConsole parsedRequest dhcpMsgAck (ip4 10 147 17 5) (by decide) (by decide)
  exact ⟨packet, hsent, hdecode⟩

/-! ## Requests for another server -/

/-- The server sends nothing, and its table is the old one, but for expired leases. -/
def StaysOut (env : Env) (frame : Bytes) (w : World) : Prop :=
  (after (dhcpServerConsume env frame w)).sent = w.sent ∧
    ((after (dhcpServerConsume env frame w)).lp.dhcpState.leases = w.lp.dhcpState.leases ∨
      (after (dhcpServerConsume env frame w)).lp.dhcpState.leases =
        dhcpSweepExpired w.lp.dhcpState.leases (env.clock w.readings))

/-- The server takes a REQUEST for its own: a console asks for the address it has a
lease for, or for any address of the ZeroTier subnet. -/
def TakesRequest (env : Env) (frame : Bytes) (req : DhcpRequest) (w : World) : Prop :=
  Serves env w ∧ isNintendoMac (Frame.etherSrc frame) ∧
    (heldLease (w.swept env).lp (Frame.etherSrc frame) (env.clock (w.readings + 1)) req ≠ none ∨
      req.hasWant && dhcpInOurSubnet w.lp req.want)

theorem dhcpServerConsume_idle {env : Env} {w : World} (h : ¬ Serves env w) (frame : Bytes) :
    dhcpServerConsume env frame w = .ok false w := by
  have hoff : (!env.options.dhcpServer) = true ∨ (!w.lp.wifiSubnetKnown) = true := by
    rw [Serves, not_and_or] at h
    simpa using h
  rw [dhcpServerConsume, bind_ok (getLp_apply w), if_pos hoff]
  rfl

/-- A REQUEST of a console is handled by `dhcpRequested`. -/
theorem consumed_request {env : Env} {frame : Bytes} {req : DhcpRequest} {w : World}
    (serves : Serves env w) (parses : Parses frame req) (request : req.msgType = dhcpMsgRequest)
    (nintendo : isNintendoMac (Frame.etherSrc frame)) :
    Requested env (Frame.etherSrc frame) req (w.swept env)
      (after (dhcpServerConsume env frame w)).dhcpView := by
  have hnot : req.msgType ≠ dhcpMsgDiscover := by
    rw [request]
    decide
  rw [dhcpServerConsume_parsed serves parses, dhcpHandle, if_neg (by simpa using nintendo),
    if_neg hnot, if_pos request]
  exact requested _ _ _ _

/-- A REQUEST that names another server is left to it exactly when the server would not
take it for its own anyway: the server identifier plays no part. -/
theorem other_server_request_iff (env : Env) (frame : Bytes) (req : DhcpRequest) (w : World)
    (parses : Parses frame req) (request : req.msgType = dhcpMsgRequest)
    (_other : req.hasServerId = true ∧ req.serverId ≠ w.lp.packetCtx.ip) :
    StaysOut env frame w ↔ ¬ TakesRequest env frame req w := by
  by_cases serves : Serves env w
  swap
  · refine iff_of_true ?_ fun htakes => serves htakes.1
    rw [StaysOut, dhcpServerConsume_idle serves]
    exact ⟨rfl, Or.inl rfl⟩
  by_cases nintendo : isNintendoMac (Frame.etherSrc frame)
  swap
  · refine iff_of_true ?_ fun htakes => nintendo htakes.2.1
    rw [StaysOut, dhcpServerConsume_parsed serves parses, dhcpHandle,
      if_pos (by simpa using nintendo)]
    exact ⟨rfl, Or.inr rfl⟩
  have hview := consumed_request serves parses request nintendo
  have hout : StaysOut env frame w ↔
      (after (dhcpServerConsume env frame w)).dhcpView.sent = w.sent ∧
        ((after (dhcpServerConsume env frame w)).dhcpView.leases = w.lp.dhcpState.leases ∨
          (after (dhcpServerConsume env frame w)).dhcpView.leases =
            dhcpSweepExpired w.lp.dhcpState.leases (env.clock w.readings)) := Iff.rfl
  rw [hout]
  generalize (after (dhcpServerConsume env frame w)).dhcpView = view at hview
  -- a reply lengthens the log
  have hreply : ∀ f : Bytes, (w.swept env).sent ++ [⟨.wifi, f⟩] ≠ w.sent := by
    intro f heq
    have := congrArg List.length heq
    simp [World.swept, World.tick] at this
  cases hview with
  | acked held own claimed reply =>
    refine iff_of_false (fun h => hreply _ h.1) (not_not_intro ⟨serves, nintendo, Or.inl ?_⟩)
    have hheld : heldLease (w.swept env).lp (Frame.etherSrc frame) (env.clock (w.readings + 1))
      req = some _ := held
    rw [hheld]
    exact Option.some_ne_none _
  | refused notHeld ours reply =>
    exact iff_of_false (fun h => hreply _ h.1)
      (not_not_intro ⟨serves, nintendo, Or.inr ours⟩)
  | silent notHeld foreign =>
    refine iff_of_true ⟨rfl, Or.inr rfl⟩ ?_
    rintro ⟨-, -, hheld | hours⟩
    · exact hheld notHeld
    · exact foreign hours

theorem parses_of_meaning {frame : Bytes} {req : DhcpRequest} (hclose : OptionsClose frame)
    (h : dhcpMeaning frame = some req) : Parses frame req := by
  intro w
  rw [dhcpParse_closed hclose, h]
  rfl

/-- The first console asks another server for an address. -/
def otherServerFrame (ip server : Ip4) : Bytes :=
  clientFrame firstConsole dhcpMsgRequest (dhcpOpt 50 ip.toList ++ dhcpOpt 54 server.toList)

def otherServerRequest (ip server : Ip4) : DhcpRequest :=
  ⟨0, 0, firstConsole, dhcpMsgRequest, ip, true, server, true, noneIp⟩

/-- The household router is asked for one of its own addresses. -/
theorem other_server_request_left :
    StaysOut (serverEnv 1000) (otherServerFrame (ip4 192 168 1 20) (ip4 192 168 1 1)) plainWorld :=
  (other_server_request_iff (serverEnv 1000) _
    (otherServerRequest (ip4 192 168 1 20) (ip4 192 168 1 1)) plainWorld
    (parses_of_meaning (by decide +kernel) (by decide +kernel)) rfl (by decide +kernel)).mpr
    fun htakes => absurd htakes.2.2 (by decide +kernel)

/-- Another server of the ZeroTier subnet is asked for an address of it: the console
gets a NAK. -/
theorem other_server_request_refused :
    Parses (otherServerFrame (ip4 10 147 17 9) (ip4 10 147 17 200))
        (otherServerRequest (ip4 10 147 17 9) (ip4 10 147 17 200)) ∧
      ip4 10 147 17 200 ≠ plainWorld.lp.packetCtx.ip ∧
      Answered plainWorld (after (dhcpServerConsume (serverEnv 1000)
        (otherServerFrame (ip4 10 147 17 9) (ip4 10 147 17 200)) plainWorld))
        ⟨dhcpMsgNak, noneIp, firstConsole⟩ ∧
      ¬ StaysOut (serverEnv 1000) (otherServerFrame (ip4 10 147 17 9) (ip4 10 147 17 200))
        plainWorld := by
  have hfacts : ip4 10 147 17 200 ≠ plainWorld.lp.packetCtx.ip ∧
      Answered plainWorld (after (dhcpServerConsume (serverEnv 1000)
        (otherServerFrame (ip4 10 147 17 9) (ip4 10 147 17 200)) plainWorld))
        ⟨dhcpMsgNak, noneIp, firstConsole⟩ := by decide +kernel
  obtain ⟨hother, hanswered⟩ := hfacts
  exact ⟨parses_of_meaning (by decide +kernel) (by decide +kernel), hother, hanswered,
    fun hout => DhcpView.not_answers hout.1 hanswered⟩

/-! ## The hardware address of a reply -/

/-- The `chaddr` field of a client message. -/
def clientHardware (frame : Bytes) : Mac := frame.vecAt 6 (dhcpOff frame + 28)

theorem dhcpOption_chaddr {frame : Bytes} {data : Nat} {code olen : UInt8} {req req' : DhcpRequest}
    {w w' : World} (h : dhcpOption frame data code olen req w = .ok req' w') :
    req'.chaddr = req.chaddr := by
  unfold dhcpOption at h
  split at h
  · obtain ⟨a, s, -, h⟩ := bind_eq_ok h
    cases h
    rfl
  split at h
  · obtain ⟨a, s, -, h⟩ := bind_eq_ok h
    cases h
    rfl
  split at h
  · obtain ⟨a, s, -, h⟩ := bind_eq_ok h
    cases h
    rfl
  · cases h
    rfl

theorem dhcpOptions_chaddr {frame : Bytes} {dhcp stop fuel off : Nat} {req req' : DhcpRequest}
    {w w' : World} (h : dhcpOptions frame dhcp stop fuel off req w = .ok req' w') :
    req'.chaddr = req.chaddr := by
  induction fuel generalizing off req w with
  | zero =>
    cases h
    rfl
  | succ fuel ih =>
    rw [dhcpOptions] at h
    split at h
    swap
    · cases h
      rfl
    obtain ⟨code, s, -, h⟩ := bind_eq_ok h
    split at h
    · cases h
      rfl
    split at h
    · exact ih h
    split at h
    · cases h
      rfl
    obtain ⟨olen, s', -, h⟩ := bind_eq_ok h
    split at h
    · cases h
      rfl
    obtain ⟨mid, s'', hoption, h⟩ := bind_eq_ok h
    exact (ih h).trans (dhcpOption_chaddr hoption)

theorem Parses.chaddr {frame : Bytes} {req : DhcpRequest} (h : Parses frame req) :
    req.chaddr = clientHardware frame := by
  have hrun := h World.boot
  rw [dhcpParse_eq] at hrun
  split at hrun
  swap
  · cases hrun
  obtain ⟨walked, s, hwalk, hrun⟩ := bind_eq_ok hrun
  split at hrun
  · cases hrun
    exact dhcpOptions_chaddr hwalk
  · cases hrun

theorem Granted.chaddr {env : Env} {mac : Mac} {w : World} {r : Reply} {view : DhcpView}
    (h : Granted env mac w r view) : r.chaddr = mac := by
  cases h <;> rfl

/-- Every reply carries the Ethernet source of the message. -/
theorem Consumed.chaddr {env : Env} {frame : Bytes} {w : World} {view : DhcpView} {r : Reply}
    (h : Consumed env frame w view) (hr : view.Answers w.sent.length r) :
    r.chaddr = Frame.etherSrc frame ∧ ∃ req, Parses frame req := by
  cases h with
  | ignored => exact absurd hr (DhcpView.not_answers rfl)
  | @handled req view serves parses handled =>
    exact ⟨(handled.answered hr).elim Granted.chaddr fun hnak => hnak.2, req, parses⟩

/-- The `chaddr` of a reply is the one of the message answered exactly when the message
came from that very hardware address: the reply carries the Ethernet source. -/
theorem reply_chaddr_iff (env : Env) (frame : Bytes) (w : World) (r : Reply)
    (answered : Answered w (after (dhcpServerConsume env frame w)) r) :
    ∃ req, Parses frame req ∧ req.chaddr = clientHardware frame ∧
      (r.chaddr = req.chaddr ↔ clientHardware frame = Frame.etherSrc frame) := by
  obtain ⟨hreply, req, parses⟩ := (consumed env frame w).chaddr answered
  refine ⟨req, parses, parses.chaddr, ?_⟩
  rw [hreply, parses.chaddr]
  exact eq_comm

theorem reply_chaddr_offer :
    Answered plainWorld offeredWorld ⟨dhcpMsgOffer, ip4 10 147 17 5, firstConsole⟩ ∧
      ∃ req, Parses (discoverFrame firstConsole) req ∧ firstConsole = req.chaddr := by
  have hanswered : Answered plainWorld offeredWorld
      ⟨dhcpMsgOffer, ip4 10 147 17 5, firstConsole⟩ := by decide +kernel
  obtain ⟨req, parses, -, hiff⟩ := reply_chaddr_iff (serverEnv 1000) (discoverFrame firstConsole)
    plainWorld ⟨dhcpMsgOffer, ip4 10 147 17 5, firstConsole⟩ hanswered
  exact ⟨hanswered, req, parses, hiff.mpr (by decide +kernel)⟩

/-- A DISCOVER of the second console that the first one passes on. -/
def forwardedDiscover : Bytes :=
  (discoverFrame firstConsole).put 70 secondConsole.toList

/-- The second console is offered an address in a reply for the first. -/
theorem reply_chaddr_forwarded :
    clientHardware forwardedDiscover = secondConsole ∧
      messageType forwardedDiscover = some dhcpMsgDiscover ∧
      Answered plainWorld (after (dhcpServerConsume (serverEnv 1000) forwardedDiscover plainWorld))
        ⟨dhcpMsgOffer, ip4 10 147 17 5, firstConsole⟩ ∧
      firstConsole ≠ secondConsole := by
  decide +kernel

end Grid0Relay
