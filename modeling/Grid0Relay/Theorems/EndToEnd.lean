import Grid0Relay.Logic.Carrier
import Grid0Relay.Logic.Dhcp
import Grid0Relay.Logic.Environments
import Grid0Relay.Theorems.Translation

/-!
# From one console to another

A UDP packet goes through two relays: the first translates its source and puts it on
the overlay, the second translates its destination and puts it on its own Wi-Fi.
The composition loses a packet in one place only. When the neighbour entry of the
peer expires between the two lookups of `lan_play_send_zerotier_ipv4`, the first
relay reads a null pointer instead of sending.
-/

namespace Grid0Relay

open Lib Lib.Exec

/-! ## The packet -/

/-- A whole, well-formed UDP packet that is not for a DHCP server. -/
structure UdpPacket (frame : Bytes) : Prop where
  captured : frame.length < 65536
  etherType : Frame.etherType frame = etherTypeIpv4
  version : Frame.ipVersion frame = 4
  header : 20 ≤ Frame.ipHeaderLen frame
  total : Frame.ipTotalLen frame ≤ etherMtu
  inside : 14 + Frame.ipTotalLen frame ≤ frame.length
  whole : Frame.ipFragment frame &&& 0x3fff = 0
  protocol : Frame.ipProtocol frame = ipv4ProtocolUdp
  udpHeader : Frame.ipHeaderLen frame + 8 ≤ Frame.ipTotalLen frame
  udpLength : udpLen frame = Frame.ipTotalLen frame - Frame.ipHeaderLen frame
  port : dstPort frame ≠ 67

/-- The data of a UDP packet. -/
def udpPayload (frame : Bytes) : Bytes :=
  frame.slice (14 + (Frame.ipHeaderLen frame + 8))
    (Frame.ipTotalLen frame - (Frame.ipHeaderLen frame + 8))

namespace UdpPacket

variable {frame : Bytes} (h : UdpPacket frame)
include h

theorem wellFormed : WellFormedIpv4 frame := by
  have hheader := h.header
  have hroom := h.udpHeader
  have hin := h.inside
  exact ⟨h.etherType, by omega, h.version, h.header, by omega, by omega⟩

theorem hasPacket : HasPacket frame := h.wellFormed.hasPacket h.captured h.total

theorem rewritable : Rewritable (packetOf frame) (packetOf frame).length :=
  h.wellFormed.rewritable h.hasPacket

theorem not_icmp : Frame.ipProtocol frame ≠ ipv4ProtocolIcmp :=
  fun hicmp => absurd (h.protocol.symm.trans hicmp) (by decide)

theorem notDhcp : NotDhcp frame := by
  intro w
  rw [dhcpParse_eq, if_neg fun hheader => h.port hheader.2.2.2.1.1, pure_apply]

/-- The relay looks at such a packet of its console. -/
theorem served {options : Options} {lp : LanPlay} (hacc : Acceptable lp frame)
    (hsrc : Frame.ipSrc frame = lp.switchIp) : Served options lp frame := by
  refine ⟨fun hreply => h.not_icmp hreply.2.2.2.1.2.2.2.2.1, Or.inr h.notDhcp, hacc, fun _ => ?_⟩
  rw [senderIp, if_neg fun harp => etherTypeIpv4_ne_arp (h.etherType.symm.trans harp)]
  exact hsrc

end UdpPacket

/-- A translated UDP packet, in a frame of its own, is one. -/
theorem UdpPacket.ports_carrier {frame : Bytes} (h : UdpPacket frame) (dstMac srcMac : Mac)
    (src dst : Ip4) :
    srcPort (carrier dstMac srcMac frame src dst) = srcPort frame ∧
      dstPort (carrier dstMac srcMac frame src dst) = dstPort frame ∧
      udpPayload (carrier dstMac srcMac frame src dst) = udpPayload frame := by
  have hheader := h.header
  have hroom := h.udpHeader
  have hlen := @ipHeaderLen_carrier dstMac srcMac frame src dst h.hasPacket h.rewritable
  have htotal := @ipTotalLen_carrier dstMac srcMac frame src dst h.hasPacket h.rewritable
  refine ⟨?_, ?_, ?_⟩
  · rw [srcPort, srcPort, hlen]
    exact net16_carrier h.hasPacket h.rewritable (by omega) (by omega) fun _ => by omega
  · rw [dstPort, dstPort, hlen, Nat.add_assoc]
    exact net16_carrier h.hasPacket h.rewritable (by omega) (by omega) fun _ => by omega
  · rw [udpPayload, udpPayload, hlen, htotal]
    exact slice_carrier h.hasPacket h.rewritable (by omega) (by omega) (by omega)

theorem UdpPacket.translated {frame : Bytes} (h : UdpPacket frame) (dstMac srcMac : Mac)
    (src dst : Ip4) : UdpPacket (carrier dstMac srcMac frame src dst) := by
  have hheader := h.header
  have hroom := h.udpHeader
  have hlen := @ipHeaderLen_carrier dstMac srcMac frame src dst h.hasPacket h.rewritable
  have htotal := @ipTotalLen_carrier dstMac srcMac frame src dst h.hasPacket h.rewritable
  have hmax : Frame.ipTotalLen frame ≤ 1500 := h.total
  have hlength := @length_carrier dstMac srcMac frame src dst h.hasPacket h.rewritable
  refine ⟨by omega, etherType_carrier, ?_, by omega, by rw [htotal]; exact h.total, by omega, ?_, ?_,
    by omega, ?_, ?_⟩
  · rw [ipVersion_carrier h.hasPacket h.rewritable]
    exact h.version
  · rw [ipFragment_carrier h.hasPacket h.rewritable]
    exact h.whole
  · rw [ipProtocol_carrier h.hasPacket h.rewritable]
    exact h.protocol
  · have hsame := @net16_carrier dstMac srcMac frame src dst h.hasPacket h.rewritable
      (Frame.ipHeaderLen frame + 4) (by omega) (by omega) fun _ => by omega
    have hudp := h.udpLength
    rw [udpLen, ← Nat.add_assoc] at *
    rw [hlen, htotal, hsame, hudp]
  · rw [(h.ports_carrier dstMac srcMac src dst).2.1]
    exact h.port

/-! ## The first relay -/

/-- What a step put on the overlay. -/
def onOverlay (w w' : World) : List Injection :=
  (newFrames w w').filter fun i => i.iface = .zerotier

/-- The peer is looked up after the frame is learned. -/
def peerLookup (env : Env) (w : World) (frame : Bytes) (n : Nat) : Option ArpItem :=
  neighborAt env w (consoleReading w frame + n) (overlayDst w.lp frame)

/-- The packet is for everybody, or its peer does not expire between two lookups. -/
def PeerHolds (env : Env) (w : World) (frame : Bytes) : Prop :=
  overlayDst w.lp frame = w.lp.zerotierBroadcastIp ∨ peerLookup env w frame 0 = none ∨
    peerLookup env w frame 1 ≠ none

/-- The request for an unknown peer. -/
def peerRequest (w : World) (frame : Bytes) : Injection :=
  ⟨.zerotier, zerotierArpFrame w.lp w.lp.zerotierIp (overlayDst w.lp frame)⟩

/-- The frames of a forwarded packet are determined by the world before it is
learned. -/
theorem Entered.forwardedFrames {env : Env} {mac : Mac} {frame : Bytes} {w w' : World}
    (h : Entered frame w w') :
    forwardedFrames env (w'.setMac mac) frame =
      if overlayDst w.lp frame = w.lp.zerotierBroadcastIp then
        some [⟨.zerotier, zerotierFrame w.lp broadcastMac (outgoing w.lp frame)⟩]
      else match peerLookup env w frame 0 with
        | none => some [peerRequest w frame,
            ⟨.zerotier, zerotierFrame w.lp broadcastMac (outgoing w.lp frame)⟩]
        | some _ => match peerLookup env w frame 1 with
          | none => none
          | some peer => some [⟨.zerotier, zerotierFrame w.lp peer.mac (outgoing w.lp frame)⟩] := by
  have hbroadcast : (w'.setMac mac).lp.zerotierBroadcastIp = w.lp.zerotierBroadcastIp :=
    congrArg Config.zerotierBroadcastIp h.config
  have hmac : (w'.setMac mac).lp.zerotierMac = w.lp.zerotierMac :=
    congrArg Config.zerotierMac h.config
  have hip : (w'.setMac mac).lp.zerotierIp = w.lp.zerotierIp := congrArg Config.zerotierIp h.config
  have hdst : overlayDst (w'.setMac mac).lp frame = overlayDst w.lp frame :=
    overlayDst_congr h.config frame
  have hout : outgoing (w'.setMac mac).lp frame = outgoing w.lp frame :=
    outgoing_congr h.config frame
  have hpeer : ∀ n, neighborAt env (w'.setMac mac) ((w'.setMac mac).readings + n)
      (overlayDst w.lp frame) = peerLookup env w frame n := by
    intro n
    rw [peerLookup, neighborAt, neighborAt,
      show (w'.setMac mac).lp.zerotierNeighbors = _ from h.neighbors,
      show (w'.setMac mac).readings = _ from h.readings]
  have hfirst := hpeer 0
  rw [Nat.add_zero] at hfirst
  rw [Grid0Relay.forwardedFrames, hdst, hout, hbroadcast, overlayFrames, hfirst, hpeer 1]
  by_cases hall : overlayDst w.lp frame = w.lp.zerotierBroadcastIp
  · rw [if_pos hall, if_pos (decide_eq_true hall), zerotierFrame, hmac, zerotierFrame]
  · rw [if_neg hall, if_neg (by simpa using hall)]
    cases peerLookup env w frame 0 with
    | none => simp only [peerRequest, zerotierFrame, zerotierArpFrame, hmac, hip]
    | some _ => cases peerLookup env w frame 1 with
      | none => rfl
      | some peer => simp only [zerotierFrame, hmac]

/-- Behind frames for Wi-Fi, the frames on the overlay are the rest of the log. -/
theorem onOverlay_append {w w' w'' : World} {frames : List Injection}
    (hfirst : Emits (fun i => i.iface = .wifi) w w') (hsent : w''.sent = w'.sent ++ frames)
    (hframes : ∀ i ∈ frames, i.iface = .zerotier) : onOverlay w w'' = frames := by
  obtain ⟨probes, hprobes, hwifi⟩ := hfirst
  have hlog : w''.sent = w.sent ++ (probes ++ frames) := by
    rw [hsent, hprobes, List.append_assoc]
  have hnone : probes.filter (fun i => i.iface = .zerotier) = [] := by
    refine List.filter_eq_nil_iff.mpr fun i hi => ?_
    rw [hwifi i hi]
    decide
  rw [onOverlay, newFrames_append hlog, List.filter_append, hnone, List.nil_append]
  exact List.filter_eq_self.mpr fun i hi => by simpa using hframes i hi

section First

variable {env : Env} {w : World} {frame : Bytes} (packet : UdpPacket frame)
  (hskip : ¬ Skipped w.lp.wifiMac frame) (hacc : Acceptable w.lp frame)
  (hsrc : Frame.ipSrc frame = w.lp.switchIp)
  (hdst : isNintendoLanBroadcast (Frame.ipDst frame) ∨
    isZerotierDestination w.lp (Frame.ipDst frame))
  (ready : EndpointReady env w frame)
include packet hskip hacc hsrc hdst ready

/-- The first relay, as far as its two lookups. -/
theorem firstRelay_run :
    ∃ w', Entered frame w w' ∧
      match forwardedFrames env (w'.setMac w.lp.wifiMac) frame with
      | some frames => (after (lanPlayPcapHandler env w.lp.wifiMac frame w)).sent =
          w'.sent ++ frames
      | none => (after (lanPlayPcapHandler env w.lp.wifiMac frame w)).sent = w'.sent := by
  obtain ⟨w', hentered, hrun⟩ := @handler_served env w.lp.wifiMac frame w hskip
    (packet.served hacc hsrc)
  have hforward : Forwardable w'.lp frame :=
    ⟨(hentered.forOverlay packet.wellFormed).mpr ⟨packet.hasPacket, hdst⟩,
      fun hunreachable => packet.not_icmp hunreachable.1.1, packet.rewritable⟩
  have hforward' : Forwardable (w'.setMac w.lp.wifiMac).lp frame := hforward
  have hready : EndpointReady env (w'.setMac w.lp.wifiMac) frame :=
    fun hneeds v hguard => ready hneeds v (hguard.trans hentered.guard)
  have hrelay := relay_forwards hforward' hready
  refine ⟨w', hentered, ?_⟩
  rw [hrun, serveConsole_forward packet.etherType hforward, after_discard]
  cases hframes : forwardedFrames env (w'.setMac w.lp.wifiMac) frame with
  | none =>
    simp only [hframes] at hrelay
    obtain ⟨v, hfault, hsent⟩ := hrelay
    rw [hfault]
    exact hsent
  | some frames =>
    simp only [hframes] at hrelay
    obtain ⟨v, hok, hsent⟩ := hrelay
    rw [hok]
    exact hsent

/-- With a peer that holds, one IPv4 frame leaves, behind a request if the peer is
unknown. -/
theorem firstRelay_sends (holds : PeerHolds env w frame) :
    ∃ requests dst, onOverlay w (after (lanPlayPcapHandler env w.lp.wifiMac frame w)) =
        requests ++ [⟨.zerotier, zerotierFrame w.lp dst (outgoing w.lp frame)⟩] ∧
      (requests = [] ∨ peerLookup env w frame 0 = none ∧ requests = [peerRequest w frame]) := by
  obtain ⟨w', hentered, hlog⟩ := firstRelay_run packet hskip hacc hsrc hdst ready
  rw [hentered.forwardedFrames] at hlog
  by_cases hall : overlayDst w.lp frame = w.lp.zerotierBroadcastIp
  · rw [if_pos hall] at hlog
    exact ⟨[], broadcastMac, onOverlay_append hentered.probes hlog (by simp), Or.inl rfl⟩
  rw [if_neg hall] at hlog
  cases hfirst : peerLookup env w frame 0 with
  | none =>
    simp only [hfirst] at hlog
    refine ⟨[peerRequest w frame], broadcastMac,
      onOverlay_append hentered.probes hlog (by simp [peerRequest]), Or.inr ⟨rfl, rfl⟩⟩
  | some first =>
    cases hsecond : peerLookup env w frame 1 with
    | none => simp [PeerHolds, hall, hfirst, hsecond] at holds
    | some peer =>
      simp only [hfirst, hsecond] at hlog
      exact ⟨[], peer.mac, onOverlay_append hentered.probes hlog (by simp), Or.inl rfl⟩

/-- Without, nothing does. -/
theorem firstRelay_expired (gone : ¬ PeerHolds env w frame) :
    onOverlay w (after (lanPlayPcapHandler env w.lp.wifiMac frame w)) = [] := by
  obtain ⟨w', hentered, hlog⟩ := firstRelay_run packet hskip hacc hsrc hdst ready
  simp only [PeerHolds, not_or, not_not] at gone
  obtain ⟨hall, hfirst, hsecond⟩ := gone
  obtain ⟨first, hfirst⟩ := Option.ne_none_iff_exists'.mp hfirst
  rw [hentered.forwardedFrames, if_neg hall] at hlog
  simp only [hfirst, hsecond] at hlog
  exact onOverlay_append hentered.probes (by rw [hlog, List.append_nil]) (by simp)

end First

/-! ## The second relay -/

/-- What the second relay does with a frame for its console. -/
theorem secondRelay_delivers (env : Env) {w : World} {out : Bytes}
    (hskip : ¬ Skipped w.lp.zerotierMac out) (htype : Frame.etherType out = etherTypeIpv4)
    (h : Deliverable w.lp out) :
    ∃ probes, newFrames w (after (lanPlayZerotierPcapHandler env w.lp.zerotierMac out w)) =
        ⟨.wifi, deliveredFrame w.lp out⟩ :: probes ∧
      probes.length ≤ 1 ∧ ∀ i ∈ probes, IsProbe w.lp i := by
  have hrun : lanPlayZerotierPcapHandler env w.lp.zerotierMac out w =
      .ok () ((w.enterZerotier env w.lp.zerotierMac out).deliver env out).leaveZerotier := by
    rw [lanPlayZerotierPcapHandler_eq, if_neg hskip]
    exact zerotierInput_delivered htype h
  obtain ⟨probes, hsent, hprobes⟩ := deliver_sent env out (w.enterZerotier env w.lp.zerotierMac out)
  rw [hrun, after_ok]
  exact ⟨probes, newFrames_append hsent, hprobes⟩

/-- The packet a console gets is the one another console sent. -/
structure Arrives (lp₁ lp₂ : LanPlay) (frame final : Bytes) : Prop where
  etherType : Frame.etherType final = etherTypeIpv4
  etherDst : Frame.etherDst final =
    if overlayDst lp₁ frame = lp₂.zerotierBroadcastIp then broadcastMac else lp₂.switchMac
  ipSrc : Frame.ipSrc final = lp₁.zerotierIp
  ipDst : Frame.ipDst final =
    if overlayDst lp₁ frame = lp₂.zerotierBroadcastIp then lp₂.zerotierBroadcastIp
    else lp₂.switchIp
  srcPort : srcPort final = srcPort frame
  dstPort : dstPort final = dstPort frame
  payload : udpPayload final = udpPayload frame
  header : ipv4HeaderChecksum ((payloadOf final).slice 0 (Frame.ipHeaderLen frame)) = 0
  udp : udpChecksum (payloadOf final) (Frame.ipHeaderLen frame) (Frame.ipTotalLen frame) = 0xffff

/-- Both translations in a row. -/
theorem arrives_delivered {lp₁ lp₂ : LanPlay} {frame : Bytes} (h : UdpPacket frame) (dst : Mac) :
    Arrives lp₁ lp₂ frame
      (deliveredFrame lp₂ (carrier dst lp₁.zerotierMac frame lp₁.zerotierIp
        (overlayDst lp₁ frame))) := by
  let out := carrier dst lp₁.zerotierMac frame lp₁.zerotierIp (overlayDst lp₁ frame)
  have hout : UdpPacket out := h.translated _ _ _ _
  have hall : ToAll lp₂ out ↔ overlayDst lp₁ frame = lp₂.zerotierBroadcastIp := by
    rw [ToAll, ipDst_carrier h.rewritable]
  have hfinal : deliveredFrame lp₂ out = carrier
      (if overlayDst lp₁ frame = lp₂.zerotierBroadcastIp then broadcastMac else lp₂.switchMac)
      lp₂.wifiMac out lp₁.zerotierIp
      (if overlayDst lp₁ frame = lp₂.zerotierBroadcastIp then lp₂.zerotierBroadcastIp
        else lp₂.switchIp) := by
    have hsrc : Frame.ipSrc out = lp₁.zerotierIp := ipSrc_carrier h.rewritable
    simp only [deliveredFrame, delivered, carrier, hall, hsrc]
  obtain ⟨hsrcOut, hdstOut, hpayloadOut⟩ :=
    h.ports_carrier dst lp₁.zerotierMac lp₁.zerotierIp (overlayDst lp₁ frame)
  obtain ⟨hsrcPort, hdstPort, hpayload⟩ := hout.ports_carrier
    (if overlayDst lp₁ frame = lp₂.zerotierBroadcastIp then broadcastMac else lp₂.switchMac)
    lp₂.wifiMac lp₁.zerotierIp
    (if overlayDst lp₁ frame = lp₂.zerotierBroadcastIp then lp₂.zerotierBroadcastIp
      else lp₂.switchIp)
  have hchecked := translated_translate hout.rewritable
    (totalLen_eq_length hout.hasPacket hout.rewritable) lp₁.zerotierIp
    (if overlayDst lp₁ frame = lp₂.zerotierBroadcastIp then lp₂.zerotierBroadcastIp
      else lp₂.switchIp)
  have hmin := (packet_sendable hout.hasPacket hout.rewritable).1
  have hlen : headerLen (packetOf out) = Frame.ipHeaderLen frame := by
    rw [headerLen_packetOf hmin]
    exact ipHeaderLen_carrier h.hasPacket h.rewritable
  have htotal : totalLen (packetOf out) = Frame.ipTotalLen frame := by
    rw [totalLen_packetOf hmin]
    exact ipTotalLen_carrier h.hasPacket h.rewritable
  have hudp : HasUdp (packetOf out) := by
    refine ⟨?_, ?_⟩
    · rw [byte_packetOf (by omega)]
      exact hout.protocol
    · rw [hlen, htotal]
      exact h.udpHeader
  rw [hfinal]
  refine ⟨etherType_carrier, etherDst_etherHeader _ _ _ _, ipSrc_carrier hout.rewritable,
    ipDst_carrier hout.rewritable, hsrcPort.trans hsrcOut, hdstPort.trans hdstOut,
    hpayload.trans hpayloadOut, ?_, ?_⟩
  · rw [carrier, payloadOf_etherHeader, ← hlen]
    exact hchecked.header
  · rw [carrier, payloadOf_etherHeader, ← hlen, ← htotal]
    exact (hchecked.udp hudp).1

/-! ## Both relays -/

/-- Two relays of one overlay, each with a console. -/
structure Peers (lp₁ lp₂ : LanPlay) : Prop where
  configured₁ : Configured lp₁.config
  configured₂ : Configured lp₂.config
  netmask : lp₁.zerotierNetmask = lp₂.zerotierNetmask
  broadcast : lp₁.zerotierBroadcastIp = lp₂.zerotierBroadcastIp
  mac : lp₁.zerotierMac ≠ lp₂.zerotierMac
  seen₁ : lp₁.switchSeen
  seen₂ : lp₂.switchSeen

/-- A packet of the first console to the second, or to every console. -/
structure Addressed (lp₁ lp₂ : LanPlay) (frame : Bytes) : Prop where
  packet : UdpPacket frame
  src : Frame.ipSrc frame = lp₁.switchIp
  dst : Frame.ipDst frame = lp₂.zerotierIp ∨ Frame.ipDst frame = lp₁.zerotierBroadcastIp ∨
    isNintendoLanBroadcast (Frame.ipDst frame)

section Both

variable {lp₁ lp₂ : LanPlay} {frame : Bytes} (peers : Peers lp₁ lp₂)
  (addressed : Addressed lp₁ lp₂ frame)
include peers addressed

/-- The first relay takes the packet for one of the overlay. -/
theorem addressed_overlay : isNintendoLanBroadcast (Frame.ipDst frame) ∨
    isZerotierDestination lp₁ (Frame.ipDst frame) := by
  rcases addressed.dst with hunicast | hbroadcast | hnintendo
  · -- the broadcast address of both networks is in both
    have h₁ := broadcast_inOverlay peers.configured₁
    have h₂ := broadcast_inOverlay peers.configured₂
    refine Or.inr ((isZerotierDestination_iff peers.configured₁ _).mpr ?_)
    rw [InOverlay, ← peers.netmask, ← peers.broadcast] at h₂
    rw [InOverlay, hunicast, ← h₂]
    exact h₁
  · refine Or.inr ((isZerotierDestination_iff peers.configured₁ _).mpr ?_)
    rw [hbroadcast]
    exact broadcast_inOverlay peers.configured₁
  · exact Or.inl hnintendo

/-- The second relay takes what the first sends. -/
theorem addressed_deliverable (dst : Mac) :
    Deliverable lp₂ (carrier dst lp₁.zerotierMac frame lp₁.zerotierIp (overlayDst lp₁ frame)) := by
  have hpacket := addressed.packet.hasPacket
  have hrewrite := addressed.packet.rewritable
  refine ⟨peers.seen₂, hasPacket_carrier hpacket hrewrite, ?_, rewritable_carrier hpacket hrewrite⟩
  rw [ipDst_carrier hrewrite, overlayDst]
  split
  · exact Or.inl peers.broadcast
  · rename_i hno
    rcases addressed.dst with hunicast | hbroadcast | hnintendo
    · exact Or.inr (Or.inl hunicast)
    · exact Or.inl (hbroadcast.trans peers.broadcast)
    · exact absurd hnintendo hno

end Both

/-- The first relay puts one IPv4 frame on the overlay, at most a request before it,
and the second makes one frame for its console out of it, at most a probe after it. -/
def EndToEnd (env₁ env₂ : Env) (w₁ w₂ : World) (frame : Bytes) : Prop :=
  ∃ requests out final probes,
    onOverlay w₁ (after (lanPlayPcapHandler env₁ w₁.lp.wifiMac frame w₁)) =
      requests ++ [⟨.zerotier, out⟩] ∧
    Frame.etherType out = etherTypeIpv4 ∧
    (requests = [] ∨ peerLookup env₁ w₁ frame 0 = none ∧ requests = [peerRequest w₁ frame]) ∧
    newFrames w₂ (after (lanPlayZerotierPcapHandler env₂ w₂.lp.zerotierMac out w₂)) =
      ⟨.wifi, final⟩ :: probes ∧
    probes.length ≤ 1 ∧ (∀ i ∈ probes, IsProbe w₂.lp i) ∧ Arrives w₁.lp w₂.lp frame final

/-- An IPv4 frame on the overlay comes from a frame the relay looked at. -/
theorem onOverlay_served {env : Env} {mac : Mac} {w : World} {frame out : Bytes}
    {requests : List Injection}
    (hlog : onOverlay w (after (lanPlayPcapHandler env mac frame w)) =
      requests ++ [⟨.zerotier, out⟩])
    (htype : Frame.etherType out = etherTypeIpv4) : FromConsole env.options mac w.lp frame := by
  have hmem : (⟨.zerotier, out⟩ : Injection) ∈
      onOverlay w (after (lanPlayPcapHandler env mac frame w)) := by
    rw [hlog]
    exact List.mem_append_right _ (List.mem_singleton_self _)
  have hframe : (⟨.zerotier, out⟩ : Injection) ∈
      (newFrames w (after (lanPlayPcapHandler env mac frame w))).filter fun i => OverlayIpv4 i :=
    List.mem_filter.mpr ⟨(List.mem_filter.mp hmem).1, decide_eq_true ⟨rfl, htype⟩⟩
  obtain ⟨frames, hover, hcase⟩ := handler_egress env mac frame w
  rw [hover.newFrames] at hframe
  rcases hcase with rfl | ⟨hrelayed, _⟩ | ⟨huntranslated, _⟩
  · simp at hframe
  · exact hrelayed.1
  · exact huntranslated.1

/-- **End-to-end delivery.** A UDP packet of one console reaches the other exactly
when the first relay accepts its sender and the peer does not expire between the two
lookups. -/
theorem end_to_end_delivery (env₁ env₂ : Env) (w₁ w₂ : World) (frame : Bytes)
    (peers : Peers w₁.lp w₂.lp) (addressed : Addressed w₁.lp w₂.lp frame)
    (ready : EndpointReady env₁ w₁ frame) :
    EndToEnd env₁ env₂ w₁ w₂ frame ↔
      ¬ Skipped w₁.lp.wifiMac frame ∧ Acceptable w₁.lp frame ∧ PeerHolds env₁ w₁ frame := by
  have packet := addressed.packet
  have hdst := addressed_overlay peers addressed
  constructor
  · rintro ⟨requests, out, final, probes, hlog, htype, -⟩
    obtain ⟨hskip, ⟨_, _, hacc, _⟩, _⟩ := onOverlay_served hlog htype
    refine ⟨hskip, hacc, ?_⟩
    by_contra hgone
    rw [firstRelay_expired packet hskip hacc addressed.src hdst ready hgone] at hlog
    simp at hlog
  · rintro ⟨hskip, hacc, holds⟩
    obtain ⟨requests, dst, hlog, hrequests⟩ :=
      firstRelay_sends packet hskip hacc addressed.src hdst ready holds
    rw [zerotierFrame_outgoing] at hlog
    -- the frame is not the second relay's own
    have hnot : ¬ Skipped w₂.lp.zerotierMac (carrier dst w₁.lp.zerotierMac frame w₁.lp.zerotierIp
        (overlayDst w₁.lp frame)) := by
      rintro (hshort | hown)
      · rw [length_carrier packet.hasPacket packet.rewritable] at hshort
        omega
      · exact peers.mac (etherSrc_carrier.symm.trans hown)
    obtain ⟨probes, hdelivered, hprobes⟩ := secondRelay_delivers env₂ hnot etherType_carrier
      (addressed_deliverable peers addressed dst)
    exact ⟨requests, _, _, probes, hlog, etherType_carrier, hrequests, hdelivered, hprobes.1,
      hprobes.2, arrives_delivered packet dst⟩

/-- The relay of the peer 10.147.17.6, once it has seen its console. -/
def peerWorld : World :=
  after (handle (calmEnv 1000) (.wifi helloFrame) (after (lanPlayInit (calmEnv 1000)
    (plainSetup (ip4 10 147 17 6) (mac6 0x02 0 0 0 0 0x21)) World.boot)))

theorem peerWorld_reachable : Reachable peerWorld :=
  Process.event _ _ (Reachable.of_start (by decide +kernel))

/-- A datagram of the console to this address: two bytes for the LAN play port. -/
def gameFrame (dst : Ip4) : Bytes :=
  etherHeader (mac6 0x02 0 0 0 0 0x10) (mac6 0x98 0xb6 0xe9 1 2 3) etherTypeIpv4 ++
    ipv4Header 30 0 ipv4ProtocolUdp (ip4 10 147 17 20) dst ++
    [0xc0, 0, 0x88, 0xb8, 0, 10, 0, 0, 1, 2]

theorem udpPacket_gameFrame : UdpPacket (gameFrame (ip4 10 147 17 6)) := by
  constructor <;> decide

/-- The conditions on two relays and the packet as one test. -/
theorem peers_of_test {w₁ w₂ : World} (h₁ : Reachable w₁) (h₂ : Reachable w₂)
    (h : (w₁.lp.zerotierNetmask = w₂.lp.zerotierNetmask ∧
      w₁.lp.zerotierBroadcastIp = w₂.lp.zerotierBroadcastIp ∧
      w₁.lp.zerotierMac ≠ w₂.lp.zerotierMac ∧ w₁.lp.switchSeen ∧ w₂.lp.switchSeen) ∧
      ip4 10 147 17 20 = w₁.lp.switchIp ∧ ip4 10 147 17 6 = w₂.lp.zerotierIp) :
    Peers w₁.lp w₂.lp ∧ Addressed w₁.lp w₂.lp (gameFrame (ip4 10 147 17 6)) := by
  obtain ⟨⟨netmask, broadcast, mac, seen₁, seen₂⟩, src, dst⟩ := h
  have hsrc : Frame.ipSrc (gameFrame (ip4 10 147 17 6)) = ip4 10 147 17 20 := by decide
  have hdst : Frame.ipDst (gameFrame (ip4 10 147 17 6)) = ip4 10 147 17 6 := by decide
  exact ⟨⟨Process.configured h₁ rfl, Process.configured h₂ rfl, netmask, broadcast, mac, seen₁,
    seen₂⟩, udpPacket_gameFrame, hsrc.trans src, Or.inl (hdst.trans dst)⟩

theorem endpointReady_gameFrame (clock : Nat → Nat) (w : World)
    (h : w.lp.udpGuard.any (fun guard => 49152 ∈ guard.ports) = true) :
    EndpointReady (clockEnv ⟨false, false, none⟩ clock) w (gameFrame (ip4 10 147 17 6)) := by
  cases hguard : w.lp.udpGuard with
  | none => simp [hguard] at h
  | some guard =>
    rw [hguard] at h
    exact (willing_clockEnv _ clock).endpointReady fun _ =>
      ⟨by decide, guard, hguard, Or.inl (of_decide_eq_true h)⟩

/-- A packet to a peer nobody asked for yet. -/
theorem end_to_end_delivery_unknown :
    EndToEnd (calmEnv 1000) (calmEnv 1000) consoleWorld peerWorld (gameFrame (ip4 10 147 17 6)) := by
  obtain ⟨peers, addressed⟩ := peers_of_test consoleWorld_reachable peerWorld_reachable
    (by decide +kernel)
  exact (end_to_end_delivery (calmEnv 1000) (calmEnv 1000) consoleWorld peerWorld
    (gameFrame (ip4 10 147 17 6)) peers addressed
    (endpointReady_gameFrame (fun _ => 1000) consoleWorld (by decide +kernel))).mpr
    ⟨by decide +kernel, by decide +kernel, Or.inr (Or.inl (by decide +kernel))⟩

/-- The first relay once the peer has announced itself. -/
def metWorld : World :=
  after (handle (calmEnv 1000) (.zerotier (etherHeader broadcastMac (mac6 0x02 0 0 0 0 0x21)
    etherTypeArp ++ arpBody arpOpcodeRequest (mac6 0x02 0 0 0 0 0x21) (ip4 10 147 17 6) noneMac
      (ip4 10 147 17 5))) consoleWorld)

/-- A clock that passes the end of the peer's entry between the two lookups. -/
def expiringEnv : Env :=
  clockEnv ⟨false, false, none⟩ fun n =>
    if n ≤ consoleReading metWorld (gameFrame (ip4 10 147 17 6)) then 1029 else 1030

/-- The packet to a peer that expires while it is sent is lost. -/
theorem expiring_peer_loses_packet :
    Reachable metWorld ∧ Reachable peerWorld ∧ Peers metWorld.lp peerWorld.lp ∧
      Addressed metWorld.lp peerWorld.lp (gameFrame (ip4 10 147 17 6)) ∧
      EndpointReady expiringEnv metWorld (gameFrame (ip4 10 147 17 6)) ∧
      Frame.etherSrc (gameFrame (ip4 10 147 17 6)) = metWorld.lp.switchMac ∧
      onOverlay metWorld (after (lanPlayPcapHandler expiringEnv metWorld.lp.wifiMac
        (gameFrame (ip4 10 147 17 6)) metWorld)) = [] ∧
      ¬ EndToEnd expiringEnv (calmEnv 1030) metWorld peerWorld (gameFrame (ip4 10 147 17 6)) := by
  have hmet : Reachable metWorld := Process.event _ _ consoleWorld_reachable
  obtain ⟨peers, addressed⟩ := peers_of_test hmet peerWorld_reachable (by decide +kernel)
  have hrun : metWorld.lp.udpGuard.any (fun guard => 49152 ∈ guard.ports) = true ∧
      Frame.etherSrc (gameFrame (ip4 10 147 17 6)) = metWorld.lp.switchMac ∧
      onOverlay metWorld (after (lanPlayPcapHandler expiringEnv metWorld.lp.wifiMac
        (gameFrame (ip4 10 147 17 6)) metWorld)) = [] := by decide +kernel
  obtain ⟨hguard, hmac, hnone⟩ := hrun
  refine ⟨hmet, peerWorld_reachable, peers, addressed, endpointReady_gameFrame _ _ hguard, hmac,
    hnone, ?_⟩
  rintro ⟨requests, out, final, probes, hlog, -⟩
  rw [hnone] at hlog
  simp at hlog

end Grid0Relay
