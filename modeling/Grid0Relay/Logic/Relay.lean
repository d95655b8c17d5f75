import Grid0Relay.Logic.Console

/-!
# The two relay functions, as pure functions

For each relay function: the tests a frame has to pass, the packet that leaves,
and the world it leaves. Both stay inside the frame, so neither has a bounds
fault; `lan_play_relay_wifi_ipv4` can still stop at the null MAC of the neighbour
context, when an entry expires between two lookups.
-/

namespace Grid0Relay

open Lib Lib.Exec

/-- The IPv4 packet of a frame, cut at its declared length. -/
def packetOf (frame : Bytes) : Bytes := frame.slice 14 (Frame.ipTotalLen frame)

/-- The frame has room for its IPv4 packet, which fits the MTU. -/
def HasPacket (frame : Bytes) : Prop :=
  14 + 20 ≤ frame.length % 65536 ∧ Frame.ipTotalLen frame ≤ etherMtu ∧
    14 + Frame.ipTotalLen frame ≤ frame.length % 65536
deriving Decidable

theorem HasPacket.length {frame : Bytes} (h : HasPacket frame) :
    34 ≤ frame.length ∧ 14 + Frame.ipTotalLen frame ≤ frame.length := by
  have := Nat.mod_le frame.length 65536
  obtain ⟨hmin, _, hin⟩ := h
  omega

theorem HasPacket.length_packetOf {frame : Bytes} (h : HasPacket frame) :
    (packetOf frame).length = Frame.ipTotalLen frame := by
  have := h.length
  rw [packetOf, Bytes.length_slice]
  omega

section Packet

variable {frame : Bytes}

theorem byte_packetOf {i : Nat} (h : i < Frame.ipTotalLen frame) :
    (packetOf frame).byte i = frame.byte (14 + i) := Bytes.byte_slice h

theorem headerLen_packetOf (h : 20 ≤ Frame.ipTotalLen frame) :
    headerLen (packetOf frame) = Frame.ipHeaderLen frame := by
  rw [headerLen, byte_packetOf (by omega)]
  rfl

theorem totalLen_packetOf (h : 20 ≤ Frame.ipTotalLen frame) :
    totalLen (packetOf frame) = Frame.ipTotalLen frame :=
  Bytes.net16_slice (by omega)

/-- On the packet of a frame the test of `rewrite_ipv4_addresses` is about the two
lengths in its header. -/
theorem rewritable_packetOf (h : HasPacket frame) :
    Rewritable (packetOf frame) (packetOf frame).length ↔
      20 ≤ Frame.ipHeaderLen frame ∧ Frame.ipHeaderLen frame ≤ Frame.ipTotalLen frame := by
  rw [h.length_packetOf]
  constructor
  · rintro ⟨hmin, hheader, hle, -, -⟩
    rw [headerLen_packetOf hmin] at hheader hle
    exact ⟨hheader, hle⟩
  · rintro ⟨hheader, hle⟩
    have hmin : 20 ≤ Frame.ipTotalLen frame := by omega
    rw [Rewritable, headerLen_packetOf hmin, totalLen_packetOf hmin]
    omega

theorem packet_sendable (h : HasPacket frame)
    (hr : Rewritable (packetOf frame) (packetOf frame).length) :
    20 ≤ Frame.ipTotalLen frame ∧ Frame.ipTotalLen frame ≤ etherMtu := by
  have := (rewritable_packetOf h).mp hr
  exact ⟨by omega, h.2.1⟩

end Packet

theorem copy_packetOf {frame : Bytes} (h : HasPacket frame) :
    copyRange etherMtu frame 14 (Frame.ipTotalLen frame) = pure (packetOf frame) :=
  copyRange_ok h.2.1 h.length.2

/-- `rewrite_ipv4_addresses` on the copied packet of a frame. -/
theorem rewrite_packetOf {frame : Bytes} (h : HasPacket frame) (src dst : Ip4) :
    rewriteIpv4Addresses (packetOf frame) (Frame.ipTotalLen frame) src dst =
      pure (if Rewritable (packetOf frame) (packetOf frame).length
        then (true, translate (packetOf frame) src dst) else (false, packetOf frame)) := by
  have hrewrite := rewriteIpv4Addresses_eq (packetOf frame) src dst
  rw [h.length_packetOf] at hrewrite ⊢
  exact hrewrite

/-! ## From ZeroTier to Wi-Fi -/

/-- The tests of `lan_play_relay_zerotier_ipv4`. -/
def Deliverable (lp : LanPlay) (frame : Bytes) : Prop :=
  lp.switchSeen ∧ HasPacket frame ∧
    (Frame.ipDst frame = lp.zerotierBroadcastIp ∨ Frame.ipDst frame = lp.zerotierIp ∨
      Frame.ipDst frame = lp.switchIp) ∧
    Rewritable (packetOf frame) (packetOf frame).length
deriving Decidable

/-- The packet is for every console of the overlay. -/
def ToAll (lp : LanPlay) (frame : Bytes) : Prop := Frame.ipDst frame = lp.zerotierBroadcastIp
deriving Decidable

/-- The packet as the console gets it. -/
def delivered (lp : LanPlay) (frame : Bytes) : Bytes :=
  translate (packetOf frame) (Frame.ipSrc frame)
    (if ToAll lp frame then lp.zerotierBroadcastIp else lp.switchIp)

/-- The frame that carries it. -/
def deliveredFrame (lp : LanPlay) (frame : Bytes) : Bytes :=
  etherHeader (if ToAll lp frame then broadcastMac else lp.switchMac) lp.wifiMac etherTypeIpv4 ++
    delivered lp frame

/-- A whole UDP packet for the LAN play port. -/
def GamePacket (frame : Bytes) : Prop :=
  Frame.ipProtocol frame = ipv4ProtocolUdp ∧ Frame.ipFragment frame &&& 0x3fff = 0 ∧
    Frame.ipHeaderLen frame + 8 ≤ Frame.ipTotalLen frame ∧
    frame.net16 (14 + Frame.ipHeaderLen frame + 2) = 35000
deriving Decidable

/-- What `lan_play_relay_zerotier_ipv4` leaves after a delivery. -/
def World.deliver (env : Env) (frame : Bytes) (w : World) : World :=
  let lp := { w.lp with
    warnedDirectSwitchDelivery := w.lp.warnedDirectSwitchDelivery ||
      (!decide (ToAll w.lp frame) && decide (Frame.ipDst frame = w.lp.switchIp)) }
  let w' := { w with lp := lp }.sendWifi (deliveredFrame w.lp frame)
  if env.sendpacket w.asked = 0 ∧ ¬ ToAll w.lp frame ∧ GamePacket frame ∧
      ¬ w.lp.wifiDeliveryProbeSent then w'.probe env
  else w'

theorem probeAfterDelivery_eq (env : Env) (frame : Bytes) (ret : Int) (broadcast : Bool)
    (w : World) (h : HasPacket frame) :
    probeAfterDelivery env frame (Frame.ipTotalLen frame) ret broadcast w =
      .ok () (if ret = 0 ∧ ¬ broadcast ∧ GamePacket frame ∧ ¬ w.lp.wifiDeliveryProbeSent
        then w.probe env else w) := by
  obtain ⟨hmin, hin⟩ := h.length
  have hhead : (frame.byte 14 &&& 15).toNat * 4 = Frame.ipHeaderLen frame := rfl
  simp (disch := omega) only [probeAfterDelivery, readByte_ok, readNet16_ok, pure_bind, hhead]
  simp only [ite_run, probeWifiDelivery_eq, pure_apply]
  by_cases hroom : ret = 0 ∧ (!broadcast) = true ∧ Frame.ipProtocol frame = ipv4ProtocolUdp ∧
      Frame.ipFragment frame &&& 0x3fff = 0 ∧
      Frame.ipTotalLen frame ≥ Frame.ipHeaderLen frame + 8
  · refine (if_pos hroom).trans ?_
    obtain ⟨hret, hone, hproto, hfrag, hudp⟩ := hroom
    have hone' : ¬ broadcast = true := by simpa using hone
    by_cases hport : frame.net16 (14 + Frame.ipHeaderLen frame + 2) = 35000
    · have hgame : GamePacket frame := ⟨hproto, hfrag, hudp, hport⟩
      rw [if_pos hport]
      by_cases hsent : w.lp.wifiDeliveryProbeSent = true
      · rw [if_pos hsent, if_neg (by simp [hsent])]
      · rw [if_neg hsent, if_pos ⟨hret, hone', hgame, hsent⟩]
    · rw [if_neg hport, if_neg fun h => hport h.2.2.1.2.2.2]
  · refine (if_neg hroom).trans ?_
    rw [if_neg fun h => hroom ⟨h.1, by simpa using h.2.1, h.2.2.1.1, h.2.2.1.2.1, h.2.2.1.2.2.1⟩]

/-- A frame that passes the tests is delivered. -/
theorem lanPlayRelayZerotierIpv4_delivered (env : Env) (frame : Bytes) (w : World)
    (h : Deliverable w.lp frame) :
    lanPlayRelayZerotierIpv4 env frame w = .ok true (w.deliver env frame) := by
  obtain ⟨hseen, hpacket, haddr, hrewrite⟩ := h
  obtain ⟨hmin, hin⟩ := hpacket.length
  obtain ⟨hlow, hmtu⟩ := packet_sendable hpacket hrewrite
  have htotal : frame.net16 (14 + 2) = Frame.ipTotalLen frame := rfl
  have hdst : frame.vecAt 4 (14 + 16) = Frame.ipDst frame := rfl
  have hsrc : frame.vecAt 4 (14 + 12) = Frame.ipSrc frame := rfl
  have hlen : ∀ src dst, (translate (packetOf frame) src dst).length = Frame.ipTotalLen frame :=
    fun src dst => by rw [length_translate hrewrite, hpacket.length_packetOf]
  simp (disch := omega) only [lanPlayRelayZerotierIpv4, readNet16_ok, readIp4_ok, pure_bind,
    bind_apply, getLp_apply, htotal, hdst, hsrc]
  rw [if_neg (by have := hpacket.1; simp [hseen]; omega)]
  rw [if_neg (by
    have := hpacket.2.2
    simp only [Bool.not_eq_true', decide_eq_false_iff_not, Bool.and_eq_false_iff,
      Bool.not_eq_false', decide_eq_true_eq]
    rintro (h | h | ⟨hall, hus, hswitch⟩)
    · omega
    · omega
    · rcases haddr with h | h | h
      · exact hall h
      · exact hus h
      · exact hswitch.elim hall fun hne => hne h)]
  simp only [bind_apply, modifyLp_apply, copy_packetOf hpacket, rewrite_packetOf hpacket,
    if_pos hrewrite, pure_apply, Bool.not_true, Bool.false_eq_true, if_false]
  have hwhole : ∀ dst, (⟨translate (packetOf frame) (Frame.ipSrc frame) dst, 0,
      Frame.ipTotalLen frame⟩ : Payload) =
      Payload.whole (translate (packetOf frame) (Frame.ipSrc frame) dst) :=
    fun dst => by rw [Payload.whole, hlen]
  rw [hwhole, lanPlaySendWifiIpv4_eq env _ _ _ (by rw [hlen]; exact ⟨hlow, hmtu⟩)]
  simp only [probeAfterDelivery_eq _ _ _ _ _ hpacket, decide_eq_true_eq]
  rfl

/-- A frame that fails a test is left to the gateway; at most the warning about
direct delivery is ticked off. -/
theorem lanPlayRelayZerotierIpv4_declined (env : Env) (frame : Bytes) (w : World)
    (h : ¬ Deliverable w.lp frame) :
    ∃ warned, lanPlayRelayZerotierIpv4 env frame w =
      .ok false { w with lp := { w.lp with warnedDirectSwitchDelivery := warned } } := by
  have hmod := Nat.mod_le frame.length 65536
  have htotal : frame.net16 (14 + 2) = Frame.ipTotalLen frame := rfl
  have hdst : frame.vecAt 4 (14 + 16) = Frame.ipDst frame := rfl
  simp (disch := omega) only [lanPlayRelayZerotierIpv4, readNet16_ok, readIp4_ok, pure_bind,
    bind_apply, getLp_apply, htotal, hdst]
  by_cases hstart : (!w.lp.switchSeen) = true ∨ frame.length % 65536 < 14 + 20
  · rw [if_pos hstart]
    exact ⟨w.lp.warnedDirectSwitchDelivery, rfl⟩
  rw [if_neg hstart]
  simp only [Bool.not_eq_true', not_or, Bool.not_eq_false, Nat.not_lt] at hstart
  simp only [ite_run]
  split
  · exact ⟨w.lp.warnedDirectSwitchDelivery, rfl⟩
  · -- addressed to the console, so only the header test is left to fail
    rename_i hguard
    simp only [not_or, not_and, Nat.not_lt] at hguard
    obtain ⟨hmtu, hin, haddr⟩ := hguard
    have hpacket : HasPacket frame := ⟨hstart.2, hmtu, hin⟩
    have hto : Frame.ipDst frame = w.lp.zerotierBroadcastIp ∨
        Frame.ipDst frame = w.lp.zerotierIp ∨ Frame.ipDst frame = w.lp.switchIp := by
      by_contra hno
      simp only [not_or] at hno
      exact haddr (by simp [hno.1]) hno.2.1 (by simp [hno.2.2])
    have hrewrite : ¬ Rewritable (packetOf frame) (packetOf frame).length :=
      fun hr => h ⟨hstart.1, hpacket, hto, hr⟩
    simp only [bind_apply, modifyLp_apply, copy_packetOf hpacket,
      rewrite_packetOf hpacket, if_neg hrewrite, pure_apply, Bool.not_false, if_true]
    exact ⟨_, rfl⟩

/-! ## From Wi-Fi to ZeroTier -/

/-- The first tests of `lan_play_relay_wifi_ipv4`: a packet of the console for the
overlay. -/
def ForOverlay (lp : LanPlay) (frame : Bytes) : Prop :=
  lp.switchSeen ∧ HasPacket frame ∧ Frame.ipSrc frame = lp.switchIp ∧
    (isNintendoLanBroadcast (Frame.ipDst frame) ∨ isZerotierDestination lp (Frame.ipDst frame))
deriving Decidable

/-- An unfragmented ICMP port-unreachable message. -/
def PortUnreachable (frame : Bytes) : Prop :=
  (Frame.ipProtocol frame = ipv4ProtocolIcmp ∧ Frame.ipFragment frame &&& 0x3fff = 0 ∧
    Frame.ipHeaderLen frame ≥ 20 ∧ Frame.ipTotalLen frame ≥ Frame.ipHeaderLen frame + 8) ∧
    frame.byte (14 + Frame.ipHeaderLen frame) = 3 ∧
    frame.byte (14 + Frame.ipHeaderLen frame + 1) = 3
deriving Decidable

/-- The destination a packet gets on the overlay. -/
def overlayDst (lp : LanPlay) (frame : Bytes) : Ip4 :=
  if isNintendoLanBroadcast (Frame.ipDst frame) then lp.zerotierBroadcastIp
  else Frame.ipDst frame

/-- The packet as it leaves on the overlay. -/
def outgoing (lp : LanPlay) (frame : Bytes) : Bytes :=
  translate (packetOf frame) lp.zerotierIp (overlayDst lp frame)

/-- The tests a packet has to pass to be translated. -/
def Forwardable (lp : LanPlay) (frame : Bytes) : Prop :=
  ForOverlay lp frame ∧ ¬ PortUnreachable frame ∧
    Rewritable (packetOf frame) (packetOf frame).length
deriving Decidable

theorem isPortUnreachable_eq {frame : Bytes} (h : HasPacket frame) :
    isPortUnreachable frame (Frame.ipTotalLen frame) =
      pure (decide (PortUnreachable frame)) := by
  obtain ⟨hmin, hin⟩ := h.length
  have hhead : (frame.byte 14 &&& 15).toNat * 4 = Frame.ipHeaderLen frame := rfl
  simp (disch := omega) only [isPortUnreachable, readByte_ok, readNet16_ok, pure_bind, hhead]
  by_cases hicmp : Frame.ipProtocol frame = ipv4ProtocolIcmp ∧
      Frame.ipFragment frame &&& 0x3fff = 0 ∧ Frame.ipHeaderLen frame ≥ 20 ∧
      Frame.ipTotalLen frame ≥ Frame.ipHeaderLen frame + 8
  · refine (if_pos hicmp).trans (congrArg pure ?_)
    simp only [PortUnreachable, hicmp, Bool.decide_and, decide_true, Bool.true_and]
    rfl
  · refine (if_neg hicmp).trans (congrArg pure ?_)
    simp [PortUnreachable, hicmp]

/-- The broadcast warning only ticks itself off. -/
theorem warnBroadcastMismatch_eq {frame : Bytes} (h : HasPacket frame) (src dst : Ip4)
    (w : World) :
    ∃ warned, warnBroadcastMismatch frame (Frame.ipTotalLen frame) (Frame.ipHeaderLen frame) src
      dst w = .ok () { w with lp := { w.lp with warnedBroadcastMismatch := warned } } := by
  obtain ⟨hmin, hin⟩ := h.length
  simp (disch := omega) only [warnBroadcastMismatch, readByte_ok, readNet16_ok, pure_bind,
    bind_apply, getLp_apply, ite_run]
  split
  · split
    · exact ⟨true, rfl⟩
    · exact ⟨w.lp.warnedBroadcastMismatch, rfl⟩
  · exact ⟨w.lp.warnedBroadcastMismatch, rfl⟩

/-- A first fragment of a UDP packet, which needs an endpoint for its source port. -/
def NeedsEndpoint (frame : Bytes) : Prop :=
  Frame.ipProtocol frame = ipv4ProtocolUdp ∧ Frame.ipFragment frame &&& 0x1fff = 0 ∧
    Frame.ipTotalLen frame ≥ Frame.ipHeaderLen frame + 8
deriving Decidable

def srcPort (frame : Bytes) : Nat := frame.net16 (14 + Frame.ipHeaderLen frame)

def dstPort (frame : Bytes) : Nat := frame.net16 (14 + Frame.ipHeaderLen frame + 2)

/-- The endpoint of a packet is reserved, or it needs none. -/
def reserveFor (env : Env) (frame : Bytes) : RelayM Int :=
  if NeedsEndpoint frame then nativeUdpGuardReserve env (srcPort frame) else pure 0

theorem reserveSourcePort_eq (env : Env) {frame : Bytes} (h : HasPacket frame) :
    reserveSourcePort env frame (Frame.ipTotalLen frame) (Frame.ipHeaderLen frame) =
      reserveFor env frame := by
  obtain ⟨hmin, hin⟩ := h.length
  simp (disch := omega) only [reserveSourcePort, readByte_ok, readNet16_ok, pure_bind]
  rfl

/-- What the steps before the transmission change: the warning, the endpoints and
the number of questions asked. -/
def World.reserved (w : World) (warned : Bool) (guard : Option NativeUdpGuard) (asked : Nat) :
    World :=
  { w with asked, lp := { w.lp with warnedBroadcastMismatch := warned, udpGuard := guard } }

theorem nativeUdpGuardReserve_reserved (env : Env) (port : Nat) (w : World) :
    ∃ ret guard asked, nativeUdpGuardReserve env port w =
      .ok ret (w.reserved w.lp.warnedBroadcastMismatch guard asked) := by
  simp only [nativeUdpGuardReserve, bind_apply, getLp_apply]
  cases hguard : w.lp.udpGuard with
  | none => exact ⟨uvEinval, w.lp.udpGuard, w.asked, rfl⟩
  | some guard =>
    -- every way out before the socket is open leaves the guard as it was
    have same : ∀ asked, ({ w with asked } : World) =
        w.reserved w.lp.warnedBroadcastMismatch (some guard) asked := by
      intro asked
      rw [World.reserved, ← hguard]
    simp only [ite_run, bind_apply, ask_apply, pure_apply]
    by_cases hzero : port = 0
    · exact ⟨_, _, w.asked, by rw [if_pos hzero, ← same]⟩
    rw [if_neg hzero]
    by_cases hknown : port ∈ guard.ports
    · exact ⟨_, _, w.asked, by rw [if_pos hknown, ← same]⟩
    rw [if_neg hknown]
    by_cases hfull : guard.count ≥ maxUdpPorts
    · exact ⟨_, _, w.asked, by rw [if_pos hfull, ← same]⟩
    rw [if_neg hfull]
    by_cases halloc : env.calloc w.asked = true
    · rw [if_neg (by simp [halloc])]
      by_cases hinit : env.uvUdpInit (w.asked + 1) = 0
      · rw [if_neg (not_not_intro hinit)]
        by_cases hbind : env.uvUdpBind (w.asked + 1 + 1) = 0
        · simp only [hbind, if_true]
          split
          · exact ⟨_, _, _, by rw [← same]⟩
          · exact ⟨0, _, _, rfl⟩
        · simp only [hbind, if_false, ne_eq, not_false_eq_true, if_true]
          exact ⟨_, _, _, by rw [← same]⟩
      · exact ⟨_, _, _, by rw [if_pos hinit, ← same]⟩
    · exact ⟨_, _, _, by rw [if_pos (by simpa using halloc), ← same]⟩

theorem reserveFor_reserved (env : Env) (frame : Bytes) (w : World) :
    ∃ ret guard asked, reserveFor env frame w =
      .ok ret (w.reserved w.lp.warnedBroadcastMismatch guard asked) := by
  unfold reserveFor
  split
  · exact nativeUdpGuardReserve_reserved env _ w
  · exact ⟨0, w.lp.udpGuard, w.asked, rfl⟩

/-- The three ways a packet leaves: everyone, an unknown peer, a known peer. With
no entry at the second lookup nothing leaves. -/
def overlayFrames (env : Env) (w : World) (broadcast : Bool) (dst : Ip4) (ip : Bytes) :
    Option (List Injection) :=
  if broadcast then some [⟨.zerotier, zerotierFrame w.lp broadcastMac ip⟩]
  else match neighborAt env w w.readings dst with
    | none => some [⟨.zerotier, zerotierArpFrame w.lp w.lp.zerotierIp dst⟩,
        ⟨.zerotier, zerotierFrame w.lp broadcastMac ip⟩]
    | some _ => match neighborAt env w (w.readings + 1) dst with
        | none => none
        | some peer => some [⟨.zerotier, zerotierFrame w.lp peer.mac ip⟩]

theorem sendOverlay_sent {env : Env} {broadcast : Bool} {dst : Ip4} {ip : Bytes} {w : World}
    {frames : List Injection} (hlen : 20 ≤ ip.length ∧ ip.length ≤ etherMtu)
    (h : overlayFrames env w broadcast dst ip = some frames) :
    ∃ ret w', sendOverlay env broadcast dst (Payload.whole ip) w = .ok ret w' ∧
      w'.sent = w.sent ++ frames := by
  have hsend : (Payload.whole ip).Sendable := hlen
  cases broadcast with
  | true =>
    obtain rfl : _ = frames := by simpa [overlayFrames] using h
    simp only [sendOverlay, if_true, lanPlaySendZerotierIpv4Broadcast_eq, if_pos hsend,
      Payload.inside_whole, Payload.bytes_whole]
    exact ⟨_, _, rfl, rfl⟩
  | false =>
    simp only [sendOverlay, Bool.false_eq_true, if_false]
    cases hfirst : neighborAt env w w.readings dst with
    | none =>
      obtain rfl : _ = frames := by simpa [overlayFrames, hfirst] using h
      rw [lanPlaySendZerotierIpv4_unknown hsend hfirst, lanPlaySendZerotierIpv4Broadcast_eq,
        if_pos hsend, if_pos (Payload.inside_whole ip), Payload.bytes_whole]
      refine ⟨_, _, rfl, ?_⟩
      simp only [World.sendZerotier, World.tick, List.append_assoc]
      rfl
    | some first =>
      cases hsecond : neighborAt env w (w.readings + 1) dst with
      | none => simp [overlayFrames, hfirst, hsecond] at h
      | some second =>
        obtain rfl : _ = frames := by simpa [overlayFrames, hfirst, hsecond] using h
        rw [lanPlaySendZerotierIpv4_known hsend hfirst hsecond,
          if_pos (Payload.inside_whole ip), Payload.bytes_whole]
        exact ⟨_, _, rfl, rfl⟩

theorem sendOverlay_expired {env : Env} {broadcast : Bool} {dst : Ip4} {ip : Bytes} {w : World}
    (hlen : 20 ≤ ip.length ∧ ip.length ≤ etherMtu)
    (h : overlayFrames env w broadcast dst ip = none) :
    ∃ w', sendOverlay env broadcast dst (Payload.whole ip) w = .error .nullPointer w' ∧
      w'.sent = w.sent := by
  have hsend : (Payload.whole ip).Sendable := hlen
  cases broadcast with
  | true => simp [overlayFrames] at h
  | false =>
    cases hfirst : neighborAt env w w.readings dst with
    | none => simp [overlayFrames, hfirst] at h
    | some first =>
      cases hsecond : neighborAt env w (w.readings + 1) dst with
      | none =>
        simp only [sendOverlay, Bool.false_eq_true, if_false]
        exact ⟨_, lanPlaySendZerotierIpv4_expired hsend hfirst hsecond, rfl⟩
      | some second => simp [overlayFrames, hfirst, hsecond] at h

/-- The transmission of a packet that passed every test. -/
def forward (env : Env) (frame : Bytes) (lp : LanPlay) : RelayM Bool := do
  warnBroadcastMismatch frame (Frame.ipTotalLen frame) (Frame.ipHeaderLen frame)
    (Frame.ipDst frame) (overlayDst lp frame)
  let ret ← reserveFor env frame
  if ret ≠ 0 then pure true
  else do
    let _ ← sendOverlay env (overlayDst lp frame = lp.zerotierBroadcastIp) (overlayDst lp frame)
      (Payload.whole (outgoing lp frame))
    pure true

/-- `lan_play_relay_wifi_ipv4`, test by test. -/
theorem lanPlayRelayWifiIpv4_eq (env : Env) (frame : Bytes) (w : World) :
    lanPlayRelayWifiIpv4 env frame w =
      if ForOverlay w.lp frame then
        if PortUnreachable frame then .ok true w
        else if Rewritable (packetOf frame) (packetOf frame).length then forward env frame w.lp w
        else .ok false w
      else .ok false w := by
  have hmod := Nat.mod_le frame.length 65536
  have htotal : frame.net16 (14 + 2) = Frame.ipTotalLen frame := rfl
  have hdst : frame.vecAt 4 (14 + 16) = Frame.ipDst frame := rfl
  have hsrc : frame.vecAt 4 (14 + 12) = Frame.ipSrc frame := rfl
  have hhead : (frame.byte 14 &&& 15).toNat * 4 = Frame.ipHeaderLen frame := rfl
  simp (disch := omega) only [lanPlayRelayWifiIpv4, readNet16_ok, readIp4_ok, readByte_ok,
    pure_bind, bind_apply, getLp_apply, htotal, hdst, hsrc, hhead]
  by_cases hstart : (!w.lp.switchSeen) = true ∨ frame.length % 65536 < 14 + 20
  · rw [if_pos hstart, if_neg fun h : ForOverlay w.lp frame => by
      have := h.2.1.1
      have := h.1
      simp_all
      omega]
    rfl
  rw [if_neg hstart]
  simp only [Bool.not_eq_true', not_or, Bool.not_eq_false, Nat.not_lt] at hstart
  by_cases hguard : Frame.ipSrc frame ≠ w.lp.switchIp ∨ Frame.ipTotalLen frame > etherMtu ∨
      frame.length % 65536 < 14 + Frame.ipTotalLen frame ∨
      ((!isNintendoLanBroadcast (Frame.ipDst frame)) = true ∧
        (!isZerotierDestination w.lp (Frame.ipDst frame)) = true)
  · rw [if_pos hguard, if_neg fun h : ForOverlay w.lp frame => by
      obtain ⟨_, hpacket, hswitch, haddr⟩ := h
      have := hpacket.2
      rcases hguard with h | h | h | h
      · exact h hswitch
      · omega
      · omega
      · simp_all]
    rfl
  · rw [if_neg hguard]
    simp only [not_or, not_and, Nat.not_lt, ne_eq, not_not] at hguard
    obtain ⟨hswitch, hmtu, hin, haddr⟩ := hguard
    have hpacket : HasPacket frame := ⟨hstart.2, hmtu, hin⟩
    have hfor : ForOverlay w.lp frame := by
      refine ⟨hstart.1, hpacket, hswitch, ?_⟩
      by_cases hnin : isNintendoLanBroadcast (Frame.ipDst frame) = true
      · exact Or.inl hnin
      · exact Or.inr (by simpa using haddr (by simpa using hnin))
    rw [if_pos hfor]
    have hwhole : ∀ ip : Bytes, ip.length = Frame.ipTotalLen frame →
        (⟨ip, 0, Frame.ipTotalLen frame⟩ : Payload) = Payload.whole ip :=
      fun ip h => by rw [Payload.whole, h]
    by_cases hunreachable : PortUnreachable frame
    · simp only [bind_apply, isPortUnreachable_eq hpacket, pure_apply, hunreachable, decide_true,
        if_true]
    · rw [if_neg hunreachable]
      by_cases hrewrite : Rewritable (packetOf frame) (packetOf frame).length
      · have hlen : ∀ src dst, (translate (packetOf frame) src dst).length =
            Frame.ipTotalLen frame :=
          fun src dst => by rw [length_translate hrewrite, hpacket.length_packetOf]
        simp only [bind_apply, isPortUnreachable_eq hpacket, pure_apply, hunreachable,
          decide_false, Bool.false_eq_true, if_false, copy_packetOf hpacket,
          rewrite_packetOf hpacket, if_pos hrewrite, Bool.not_true, hwhole _ (hlen _ _),
          reserveSourcePort_eq env hpacket]
        rfl
      · simp only [bind_apply, isPortUnreachable_eq hpacket, pure_apply, hunreachable,
          decide_false, Bool.false_eq_true, if_false, copy_packetOf hpacket,
          rewrite_packetOf hpacket, if_neg hrewrite, Bool.not_false, if_true]

section Forward

variable {env : Env} {frame : Bytes} {w : World}

/-- The packet length is one the senders accept. -/
theorem outgoing_length (h : Forwardable w.lp frame) :
    20 ≤ (outgoing w.lp frame).length ∧ (outgoing w.lp frame).length ≤ etherMtu := by
  obtain ⟨⟨_, hpacket, _⟩, _, hrewrite⟩ := h
  rw [outgoing, length_translate hrewrite, hpacket.length_packetOf]
  exact packet_sendable hpacket hrewrite

theorem Forwardable.relay_eq (h : Forwardable w.lp frame) :
    lanPlayRelayWifiIpv4 env frame w = forward env frame w.lp w := by
  rw [lanPlayRelayWifiIpv4_eq, if_pos h.1, if_neg h.2.1, if_pos h.2.2]

/-- The frames `forward` puts on the overlay when the endpoint is there. -/
def forwardedFrames (env : Env) (w : World) (frame : Bytes) : Option (List Injection) :=
  overlayFrames env w (overlayDst w.lp frame = w.lp.zerotierBroadcastIp) (overlayDst w.lp frame)
    (outgoing w.lp frame)

theorem forward_reserved (env : Env) (h : Forwardable w.lp frame) :
    ∃ warned ret guard asked,
      reserveFor env frame (w.reserved warned w.lp.udpGuard w.asked) =
        .ok ret (w.reserved warned guard asked) ∧
      forward env frame w.lp w =
        if ret ≠ 0 then .ok true (w.reserved warned guard asked)
        else (sendOverlay env (overlayDst w.lp frame = w.lp.zerotierBroadcastIp)
          (overlayDst w.lp frame) (Payload.whole (outgoing w.lp frame)) >>= fun _ => pure true)
          (w.reserved warned guard asked) := by
  obtain ⟨warned, hwarn⟩ := warnBroadcastMismatch_eq h.1.2.1 (Frame.ipDst frame)
    (overlayDst w.lp frame) w
  obtain ⟨ret, guard, asked, hreserve⟩ := reserveFor_reserved env frame
    (w.reserved warned w.lp.udpGuard w.asked)
  refine ⟨warned, ret, guard, asked, hreserve, ?_⟩
  rw [forward, bind_ok hwarn]
  refine (bind_ok hreserve).trans ?_
  rw [ite_run, pure_apply]
  rfl

/-- The endpoint was there or could be opened. -/
def EndpointPossible (lp : LanPlay) (frame : Bytes) : Prop :=
  NeedsEndpoint frame → srcPort frame ≠ 0 ∧ ∃ guard, lp.udpGuard = some guard ∧
    (srcPort frame ∈ guard.ports ∨ guard.count < maxUdpPorts)

/-- A reservation succeeds only where there is room for it. -/
theorem endpointPossible_of_reserved {w' r : World} (hguard : w'.lp.udpGuard = w.lp.udpGuard)
    (h : reserveFor env frame w' = .ok 0 r) : EndpointPossible w.lp frame := by
  intro hneeds
  rw [reserveFor, if_pos hneeds] at h
  simp only [nativeUdpGuardReserve, bind_apply, getLp_apply] at h
  cases hg : w'.lp.udpGuard with
  | none =>
    simp only [hg, pure_apply] at h
    injection h with h
    exact absurd h (by decide)
  | some guard =>
    simp only [hg, ite_run, pure_apply] at h
    split at h
    · injection h with h
      exact absurd h (by decide)
    rename_i hport
    split at h
    · rename_i hknown
      exact ⟨hport, guard, hguard ▸ hg, Or.inl hknown⟩
    · split at h
      · injection h with h
        exact absurd h (by decide)
      · rename_i hroom
        exact ⟨hport, guard, hguard ▸ hg, Or.inr (by omega)⟩

/-- Whatever the endpoint and the caches do, a forwarded packet leaves as
`forwardedFrames` says or not at all. -/
theorem relay_emits (env : Env) (h : Forwardable w.lp frame) :
    (after (lanPlayRelayWifiIpv4 env frame w)).sent = w.sent ∨
      ∃ frames, forwardedFrames env w frame = some frames ∧ EndpointPossible w.lp frame ∧
        (after (lanPlayRelayWifiIpv4 env frame w)).sent = w.sent ++ frames := by
  obtain ⟨warned, ret, guard, asked, hreserve, hforward⟩ := forward_reserved env h
  rw [h.relay_eq, hforward]
  split
  · exact Or.inl rfl
  · rename_i hret
    obtain rfl := not_not.mp hret
    have hlen := outgoing_length h
    cases hframes : forwardedFrames env w frame with
    | none =>
      obtain ⟨w', hsend, hsent⟩ := sendOverlay_expired (w := w.reserved warned guard asked) hlen
        hframes
      rw [bind_error hsend]
      exact Or.inl hsent
    | some frames =>
      obtain ⟨ret, w', hsend, hsent⟩ := sendOverlay_sent (w := w.reserved warned guard asked) hlen
        hframes
      rw [bind_ok hsend]
      exact Or.inr ⟨frames, rfl,
        endpointPossible_of_reserved (w := w) (by rfl) hreserve, hsent⟩

/-- The endpoint of the packet can be reserved, whatever else has happened. -/
def EndpointReady (env : Env) (w : World) (frame : Bytes) : Prop :=
  NeedsEndpoint frame → ∀ w' : World, w'.lp.udpGuard = w.lp.udpGuard →
    ∃ w'', nativeUdpGuardReserve env (srcPort frame) w' = .ok 0 w''

theorem EndpointReady.ret_eq_zero (h : EndpointReady env w frame) {w' r : World} {ret : Int}
    (hr : reserveFor env frame w' = .ok ret r) (hguard : w'.lp.udpGuard = w.lp.udpGuard) :
    ret = 0 := by
  unfold reserveFor at hr
  split at hr
  · rename_i hneeds
    obtain ⟨w'', hw⟩ := h hneeds w' hguard
    rw [hw] at hr
    injection hr with hret
    exact hret.symm
  · rw [pure_apply] at hr
    injection hr with hret
    exact hret.symm

/-- With an endpoint the packet leaves on the overlay, unless its peer expires
between the two lookups. -/
theorem relay_forwards (h : Forwardable w.lp frame) (ready : EndpointReady env w frame) :
    match forwardedFrames env w frame with
    | some frames => ∃ w', lanPlayRelayWifiIpv4 env frame w = .ok true w' ∧
        w'.sent = w.sent ++ frames
    | none => ∃ w', lanPlayRelayWifiIpv4 env frame w = .error .nullPointer w' ∧
        w'.sent = w.sent := by
  obtain ⟨warned, ret, guard, asked, hreserve, hforward⟩ := forward_reserved env h
  obtain rfl : ret = 0 := ready.ret_eq_zero hreserve rfl
  rw [h.relay_eq, hforward, if_neg (not_not_intro rfl)]
  have hlen := outgoing_length h
  cases hframes : forwardedFrames env w frame with
  | none =>
    obtain ⟨w', hsend, hsent⟩ := sendOverlay_expired (w := w.reserved warned guard asked) hlen
      hframes
    exact ⟨w', bind_error hsend, hsent⟩
  | some frames =>
    obtain ⟨ret, w', hsend, hsent⟩ := sendOverlay_sent (w := w.reserved warned guard asked) hlen
      hframes
    exact ⟨w', by rw [bind_ok hsend, pure_apply], hsent⟩

end Forward

end Grid0Relay
