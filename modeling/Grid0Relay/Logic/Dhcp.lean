import Grid0Relay.Logic.Senders

/-!
# Client messages

`dhcp_parse` as a test of the headers and a walk over the options. The header
tests stay inside the frame; the walk need not, because its end counts the IPv4
header a second time.
-/

namespace Grid0Relay

open Lib Lib.Exec

/-- Where the DHCP message of a frame starts. -/
def dhcpOff (frame : Bytes) : Nat := 14 + Frame.ipHeaderLen frame + 8

/-- The UDP length of a frame. -/
def udpLen (frame : Bytes) : Nat := frame.net16 (14 + Frame.ipHeaderLen frame + 4)

/-- The offset in the message at which the walk of `dhcp_parse` ends. -/
def optionsStop (frame : Bytes) : Nat := Frame.ipHeaderLen frame + udpLen frame - 8

/-- The tests of `dhcp_parse` in front of the options: a UDP packet for port 67 with
a client message in it. -/
def DhcpHeader (frame : Bytes) : Prop :=
  14 + 20 + 8 + 240 ≤ frame.length ∧ Frame.etherType frame = etherTypeIpv4 ∧
    (Frame.ipVersion frame = 4 ∧ 20 ≤ Frame.ipHeaderLen frame ∧
      Frame.ipHeaderLen frame + 8 ≤ Frame.ipTotalLen frame ∧
      Frame.ipTotalLen frame ≤ frame.length - 14 ∧ Frame.ipProtocol frame = ipv4ProtocolUdp) ∧
    (frame.net16 (14 + Frame.ipHeaderLen frame + 2) = 67 ∧ 8 + 240 ≤ udpLen frame ∧
      Frame.ipHeaderLen frame + udpLen frame ≤ Frame.ipTotalLen frame) ∧
    (frame.byte (dhcpOff frame) = 1 ∧ frame.byte (dhcpOff frame + 1) = 1 ∧
      frame.byte (dhcpOff frame + 2) = 6) ∧
    frame.net16 (dhcpOff frame + 236) = 0x6382 ∧ frame.net16 (dhcpOff frame + 238) = 0x5363
deriving Decidable

/-- The fixed part of a client message. -/
def dhcpFixed (frame : Bytes) : DhcpRequest where
  xid := frame.net16 (dhcpOff frame + 4) * 65536 + frame.net16 (dhcpOff frame + 6)
  flags := frame.net16 (dhcpOff frame + 10)
  chaddr := frame.vecAt 6 (dhcpOff frame + 28)
  msgType := 0
  requestedIp := noneIp
  hasRequestedIp := false
  serverId := noneIp
  hasServerId := false
  ciaddr := frame.vecAt 4 (dhcpOff frame + 12)

/-- The walk over the options, and what it makes of a message without a type. -/
def dhcpWalk (frame : Bytes) : RelayM (Option DhcpRequest) := do
  let req ← dhcpOptions frame (dhcpOff frame) (optionsStop frame) (optionsStop frame) 240
    (dhcpFixed frame)
  pure (if req.msgType ≠ 0 then some req else none)

/-- The walk with only the first `n` bytes of the frame there. -/
def dhcpWalkIn (frame : Bytes) (n : Nat) : RelayM (Option DhcpRequest) := do
  let req ← dhcpOptions (frame.take n) (dhcpOff frame) (optionsStop frame) (optionsStop frame) 240
    (dhcpFixed frame)
  pure (if req.msgType ≠ 0 then some req else none)

theorem dhcpWalkIn_length (frame : Bytes) : dhcpWalkIn frame frame.length = dhcpWalk frame := by
  rw [dhcpWalkIn, List.take_length, dhcpWalk]

/-! ## The headers in the first bytes of a frame -/

section Start

variable {frame : Bytes} {n : Nat}

theorem readByte_take {i : Nat} (h : i < n) (hi : i < frame.length) :
    readByte (frame.take n) i = pure (frame.byte i) := by
  rw [readByte_ok (by rw [List.length_take]; omega), Bytes.byte_take h]

theorem readNet16_take {i : Nat} (h : i + 1 < n) (hi : i + 1 < frame.length) :
    readNet16 (frame.take n) i = pure (frame.net16 i) := by
  rw [readNet16_ok (by rw [List.length_take]; omega), Bytes.net16, Bytes.byte_take (by omega),
    Bytes.byte_take h, Bytes.net16]

theorem vecAt_take {k i : Nat} (h : i + k ≤ n) :
    Bytes.vecAt k (frame.take n) i = frame.vecAt k i := by
  rw [Bytes.vecAt_eq_iff]
  intro j hj
  exact Bytes.byte_take (by omega)

theorem readIp4_take {i : Nat} (h : i + 4 ≤ n) (hi : i + 4 ≤ frame.length) :
    readIp4 (frame.take n) i = pure (frame.vecAt 4 i) := by
  rw [readIp4_ok (by rw [List.length_take]; omega), vecAt_take h]

theorem readMac_take {i : Nat} (h : i + 6 ≤ n) (hi : i + 6 ≤ frame.length) :
    readMac (frame.take n) i = pure (frame.vecAt 6 i) := by
  rw [readMac_ok (by rw [List.length_take]; omega), vecAt_take h]

theorem dhcpParseMessage_take (hn : dhcpOff frame + 240 ≤ n)
    (h : dhcpOff frame + 240 ≤ frame.length) :
    dhcpParseMessage (frame.take n) (Frame.ipHeaderLen frame) (udpLen frame) =
      if (frame.byte (dhcpOff frame) = 1 ∧ frame.byte (dhcpOff frame + 1) = 1 ∧
          frame.byte (dhcpOff frame + 2) = 6) ∧
        frame.net16 (dhcpOff frame + 236) = 0x6382 ∧ frame.net16 (dhcpOff frame + 238) = 0x5363
      then dhcpWalkIn frame n else pure none := by
  have hoff : 14 + Frame.ipHeaderLen frame + 8 = dhcpOff frame := rfl
  simp (disch := omega) only [dhcpParseMessage, readByte_take, readNet16_take, readIp4_take,
    readMac_take, pure_bind, hoff]
  by_cases hop : frame.byte (dhcpOff frame) = 1 ∧ frame.byte (dhcpOff frame + 1) = 1 ∧
      frame.byte (dhcpOff frame + 2) = 6
  · rw [if_neg (by simp [hop])]
    by_cases hmagic : frame.net16 (dhcpOff frame + 236) = 0x6382 ∧
        frame.net16 (dhcpOff frame + 238) = 0x5363
    · rw [if_neg (by simp [hmagic]), if_pos ⟨hop, hmagic⟩]
      rfl
    · rw [if_pos (by simpa [imp_iff_not_or] using hmagic), if_neg fun hall => hmagic hall.2]
  · rw [if_pos (by simpa [imp_iff_not_or] using hop), if_neg fun hall => hop hall.1]

/-- The tests look only at the headers and the fixed part of a message. -/
theorem dhcpParseLen_take (hfixed : 14 + 20 + 8 + 240 ≤ n)
    (hmessage : 8 + 240 ≤ udpLen frame → 14 + Frame.ipHeaderLen frame + udpLen frame ≤ frame.length →
      dhcpOff frame + 240 ≤ n) :
    dhcpParseLen (frame.take n) frame.length =
      if DhcpHeader frame then dhcpWalkIn frame n else pure none := by
  have hver : frame.byte 14 >>> 4 = Frame.ipVersion frame := rfl
  have hhead : (frame.byte 14 &&& 15).toNat * 4 = Frame.ipHeaderLen frame := rfl
  have htotal : frame.net16 (14 + 2) = Frame.ipTotalLen frame := rfl
  have htype : frame.net16 12 = Frame.etherType frame := rfl
  have hproto : frame.byte (14 + 9) = Frame.ipProtocol frame := rfl
  have hudp : frame.net16 (14 + Frame.ipHeaderLen frame + 4) = udpLen frame := rfl
  have hhlen := Frame.ipHeaderLen_le frame
  -- a failed test in front of the options
  have hnone : ∀ x : RelayM (Option DhcpRequest), ¬ DhcpHeader frame → x = pure none →
      x = if DhcpHeader frame then dhcpWalkIn frame n else pure none :=
    fun x hno hx => by rw [if_neg hno, hx]
  by_cases hlen : frame.length < 14 + 20 + 8 + 240
  · exact hnone _ (fun h => absurd h.1 (by omega)) (if_pos hlen)
  simp (disch := omega) only [dhcpParseLen, readNet16_take, readByte_take, pure_bind, hver, hhead,
    htotal, htype, hproto]
  rw [if_neg hlen]
  by_cases hip : Frame.etherType frame = etherTypeIpv4
  swap
  · exact hnone _ (fun h => hip h.2.1) (if_pos hip)
  rw [if_neg (not_not_intro hip)]
  by_cases hguard : Frame.ipVersion frame ≠ 4 ∨ Frame.ipHeaderLen frame < 20 ∨
      Frame.ipTotalLen frame < Frame.ipHeaderLen frame + 8 ∨
      Frame.ipTotalLen frame > frame.length - 14 ∨ Frame.ipProtocol frame ≠ ipv4ProtocolUdp
  · refine hnone _ (fun h => ?_) (if_pos hguard)
    obtain ⟨-, -, ⟨h4, hmin, hroom, hin, hproto⟩, -⟩ := h
    rcases hguard with h | h | h | h | h
    · exact h h4
    · omega
    · omega
    · omega
    · exact h hproto
  rw [if_neg hguard]
  simp only [not_or, not_not, Nat.not_lt] at hguard
  obtain ⟨h4, hmin, hroom, hin, hproto'⟩ := hguard
  simp only [hudp]
  by_cases hport : frame.net16 (14 + Frame.ipHeaderLen frame + 2) ≠ 67 ∨ udpLen frame < 8 + 240 ∨
      Frame.ipHeaderLen frame + udpLen frame > Frame.ipTotalLen frame
  · refine hnone _ (fun h => ?_) (if_pos hport)
    obtain ⟨-, -, -, ⟨h67, hudpMin, hudpIn⟩, -⟩ := h
    rcases hport with h | h | h
    · exact h h67
    · omega
    · omega
  rw [if_neg hport]
  simp only [not_or, not_not, Nat.not_lt] at hport
  rw [dhcpParseMessage_take (hmessage (by omega) (by omega)) (by rw [dhcpOff]; omega)]
  by_cases hclient : (frame.byte (dhcpOff frame) = 1 ∧ frame.byte (dhcpOff frame + 1) = 1 ∧
      frame.byte (dhcpOff frame + 2) = 6) ∧
      frame.net16 (dhcpOff frame + 236) = 0x6382 ∧ frame.net16 (dhcpOff frame + 238) = 0x5363
  · rw [if_pos hclient, if_pos (show DhcpHeader frame from
      ⟨by omega, hip, ⟨h4, hmin, hroom, by omega, hproto'⟩, ⟨hport.1, by omega, by omega⟩, hclient⟩)]
  · rw [if_neg hclient, if_neg fun h : DhcpHeader frame => hclient h.2.2.2.2]

end Start

theorem dhcpParse_eq (frame : Bytes) :
    dhcpParse frame = if DhcpHeader frame then dhcpWalk frame else pure none := by
  by_cases hlen : frame.length < 14 + 20 + 8 + 240
  · rw [dhcpParse, dhcpParseLen, if_pos hlen, if_neg fun h : DhcpHeader frame => by have := h.1; omega]
  have htake := @dhcpParseLen_take frame frame.length (by omega)
    (fun hmin hin => by rw [dhcpOff]; omega)
  rwa [List.take_length, dhcpWalkIn_length] at htake

end Grid0Relay
