import Grid0Relay.Logic.Carrier
import Grid0Relay.Logic.Reach
import Grid0Relay.Logic.UdpGuard

/-!
# UDP endpoints

The host keeps a socket open for every port the console sends from, so that it does
not answer the peer with an ICMP error. The list of those ports stays in order under
any reservations, and no UDP packet leaves on the overlay whose port is not in it.
-/

namespace Grid0Relay

open Lib Lib.Exec

/-- Sending on the overlay does not touch the guard. -/
theorem sendOverlay_guard (env : Env) (broadcast : Bool) (dst : Ip4) {ip : Bytes} (w : World)
    (hlen : 20 ≤ ip.length ∧ ip.length ≤ etherMtu) :
    (after (sendOverlay env broadcast dst (Payload.whole ip) w)).lp.udpGuard = w.lp.udpGuard := by
  have hsend : (Payload.whole ip).Sendable := hlen
  cases broadcast with
  | true =>
    simp only [sendOverlay, if_true, lanPlaySendZerotierIpv4Broadcast_eq, if_pos hsend,
      Payload.inside_whole]
    rfl
  | false =>
    simp only [sendOverlay, Bool.false_eq_true, if_false]
    cases hfirst : neighborAt env w w.readings dst with
    | none =>
      rw [lanPlaySendZerotierIpv4_unknown hsend hfirst, lanPlaySendZerotierIpv4Broadcast_eq,
        if_pos hsend, if_pos (Payload.inside_whole ip)]
      rfl
    | some first =>
      cases hsecond : neighborAt env w (w.readings + 1) dst with
      | none =>
        rw [lanPlaySendZerotierIpv4_expired hsend hfirst hsecond]
        rfl
      | some second =>
        rw [lanPlaySendZerotierIpv4_known hsend hfirst hsecond,
          if_pos (Payload.inside_whole ip)]
        rfl

/-- The reservation `lan_play_relay_wifi_ipv4` makes. Only the flag of the warning has
changed by then, so its result is that of the state the call started in. -/
theorem forward_reserves (env : Env) {frame : Bytes} {w : World} (h : Forwardable w.lp frame)
    (hneeds : NeedsEndpoint frame) :
    ∃ w₁ w₂, w₁.sent = w.sent ∧ w₂.sent = w.sent ∧
      Reserves (srcPort frame) w₁ (reserveResult env (srcPort frame) w.lp.udpGuard w.asked) w₂ ∧
      lanPlayRelayWifiIpv4 env frame w =
        if reserveResult env (srcPort frame) w.lp.udpGuard w.asked ≠ 0 then .ok true w₂
        else (sendOverlay env (overlayDst w.lp frame = w.lp.zerotierBroadcastIp)
          (overlayDst w.lp frame) (Payload.whole (outgoing w.lp frame)) >>= fun _ => pure true)
          w₂ := by
  obtain ⟨warned, ret, guard, asked, hreserve, hforward⟩ := forward_reserved env h
  obtain ⟨w₂, hrun, hstep⟩ := nativeUdpGuardReserve_reserves env (srcPort frame)
    (w.reserved warned w.lp.udpGuard w.asked)
  rw [reserveFor, if_pos hneeds, hrun] at hreserve
  injection hreserve with hret hw₂
  subst hret hw₂
  exact ⟨w.reserved warned w.lp.udpGuard w.asked, w.reserved warned guard asked, rfl, rfl, hstep,
    h.relay_eq.trans hforward⟩

/-- A packet whose endpoint cannot be reserved is consumed and goes nowhere. -/
theorem relay_refused (env : Env) {frame : Bytes} {w : World} (h : Forwardable w.lp frame)
    (hneeds : NeedsEndpoint frame)
    (hfail : reserveResult env (srcPort frame) w.lp.udpGuard w.asked ≠ 0) :
    ∃ w', lanPlayRelayWifiIpv4 env frame w = .ok true w' ∧ w'.sent = w.sent := by
  obtain ⟨w₁, w₂, -, hsent, -, hrelay⟩ := forward_reserves env h hneeds
  rw [if_pos hfail] at hrelay
  exact ⟨w₂, hrelay, hsent⟩

/-- One that leaves has its port in the list. -/
theorem relay_endpoint (env : Env) {frame : Bytes} {w : World} (h : Forwardable w.lp frame)
    (hneeds : NeedsEndpoint frame)
    (hsent : (after (lanPlayRelayWifiIpv4 env frame w)).sent ≠ w.sent) :
    ∃ g, (after (lanPlayRelayWifiIpv4 env frame w)).lp.udpGuard = some g ∧
      srcPort frame ∈ g.ports := by
  obtain ⟨w₁, w₂, -, hsame, hstep, hrelay⟩ := forward_reserves env h hneeds
  by_cases hret : reserveResult env (srcPort frame) w.lp.udpGuard w.asked = 0
  · rw [hret] at hstep
    obtain ⟨g, hguard, hmem⟩ := hstep.mem
    refine ⟨g, ?_, hmem⟩
    have hkeep := sendOverlay_guard env (overlayDst w.lp frame = w.lp.zerotierBroadcastIp)
      (overlayDst w.lp frame) w₂ (outgoing_length h)
    rw [hrelay, if_neg (not_not_intro hret), ← hguard, ← hkeep, bind_apply]
    cases sendOverlay env (overlayDst w.lp frame = w.lp.zerotierBroadcastIp)
      (overlayDst w.lp frame) (Payload.whole (outgoing w.lp frame)) w₂ <;> rfl
  · rw [hrelay, if_pos hret, after_ok] at hsent
    exact absurd hsame hsent

/-- The frame on the overlay needs the endpoint its packet needs. -/
theorem needsEndpoint_carrier {dstMac srcMac : Mac} {frame : Bytes} {src dst : Ip4}
    (hpacket : HasPacket frame) (h : Rewritable (packetOf frame) (packetOf frame).length)
    (hneeds : NeedsEndpoint (carrier dstMac srcMac frame src dst)) :
    NeedsEndpoint frame ∧ srcPort (carrier dstMac srcMac frame src dst) = srcPort frame := by
  obtain ⟨hproto, hfrag, hroom⟩ := hneeds
  rw [ipProtocol_carrier hpacket h] at hproto
  rw [ipFragment_carrier hpacket h] at hfrag
  rw [ipTotalLen_carrier hpacket h, ipHeaderLen_carrier hpacket h] at hroom
  have hheader := ((rewritable_packetOf hpacket).mp h).1
  refine ⟨⟨hproto, hfrag, hroom⟩, ?_⟩
  rw [srcPort, srcPort, ipHeaderLen_carrier hpacket h]
  exact net16_carrier hpacket h (by omega) (by omega) fun _ => by omega

/-- **Endpoints.** Any reservations keep the list of the guard in order; an error
keeps it as it was, a reserved port stays and can be reserved again. Every UDP packet
that leaves on the overlay with offset 0 and room for a UDP header has its source port
in the list, and one whose reservation fails is consumed. -/
theorem endpoints_reserved (env : Env) :
    (∀ (ports : List Nat) (w : World), w.lp.udpGuard = some .empty →
      ∃ w' g, reserveAll env ports w = .ok () w' ∧ w'.lp.udpGuard = some g ∧ g.Valid ∧
        (∀ port, ∃ ret w'' g', nativeUdpGuardReserve env port w' = .ok ret w'' ∧
          w''.lp.udpGuard = some g' ∧ (ret ≠ 0 → g' = g) ∧ (ret = 0 → port ∈ g'.ports) ∧
          (port ∈ g.ports → ret = 0 ∧ w'' = w')) ∧
        ∀ later, ∃ w'' g', reserveAll env later w' = .ok () w'' ∧ w''.lp.udpGuard = some g' ∧
          g.ports ⊆ g'.ports) ∧
    (∀ (frame : Bytes) (w : World), ∃ frames,
      (after (lanPlayRelayWifiIpv4 env frame w)).sent = w.sent ++ frames ∧
      ∀ i ∈ frames, OverlayIpv4 i → NeedsEndpoint i.frame →
        ∃ g, (after (lanPlayRelayWifiIpv4 env frame w)).lp.udpGuard = some g ∧
          srcPort i.frame ∈ g.ports) ∧
    ∀ (frame : Bytes) (w r : World) (ret : Int), Forwardable w.lp frame → NeedsEndpoint frame →
      nativeUdpGuardReserve env (srcPort frame) w = .ok ret r → ret ≠ 0 →
      ∃ w', lanPlayRelayWifiIpv4 env frame w = .ok true w' ∧ w'.sent = w.sent := by
  refine ⟨fun ports w hguard => ?_, fun frame w => ?_, fun frame w r ret h hneeds hrun hret => ?_⟩
  · obtain ⟨w', g, hall, hguard', hvalid, -⟩ :=
      reserveAll_guard env ports hguard NativeUdpGuard.empty_valid
    refine ⟨w', g, hall, hguard', hvalid, fun port => ?_, fun later => ?_⟩
    · obtain ⟨w'', hreserve, hstep⟩ := nativeUdpGuardReserve_reserves env port w'
      obtain ⟨g', hguard'', -, -, herror, hok, -⟩ := hstep.guard hguard' hvalid
      refine ⟨_, w'', g', hreserve, hguard'', herror, hok, fun hmem => ?_⟩
      have hknown := nativeUdpGuardReserve_known env hguard' hvalid hmem
      rw [hreserve] at hknown
      injection hknown with hzero hsame
      exact ⟨hzero, hsame⟩
    · obtain ⟨w'', g', hlater, hguard'', -, hsub⟩ := reserveAll_guard env later hguard' hvalid
      exact ⟨w'', g', hlater, hguard'', hsub⟩
  · obtain ⟨frames, hsent, hframes⟩ := relayWifi_frames env frame w
    refine ⟨frames, hsent, fun i hi hip hneeds => ?_⟩
    rcases hframes with rfl | ⟨hforward, _, hframes⟩
    · simp at hi
    obtain ⟨⟨-, hpacket, -⟩, -, hrewrite⟩ := id hforward
    obtain ⟨mac, rfl⟩ := overlayFrames_ipv4 hframes hi hip
    obtain ⟨hneeds', hport⟩ := needsEndpoint_carrier hpacket hrewrite hneeds
    have hleft : (after (lanPlayRelayWifiIpv4 env frame w)).sent ≠ w.sent := by
      rw [hsent]
      intro hnone
      obtain rfl : frames = [] := by simpa using hnone
      simp at hi
    obtain ⟨g, hguard, hmem⟩ := relay_endpoint env hforward hneeds' hleft
    exact ⟨g, hguard, (congrArg (· ∈ g.ports) hport).mpr hmem⟩
  · obtain ⟨w'', hreserve, -⟩ := nativeUdpGuardReserve_reserves env (srcPort frame) w
    rw [hreserve] at hrun
    injection hrun with hresult
    exact relay_refused env h hneeds (hresult ▸ hret)

/-- A packet of the console from port 0, for which there is no endpoint. -/
def portlessFrame : Bytes :=
  etherHeader (mac6 0x02 0 0 0 0 0x10) (mac6 0x98 0xb6 0xe9 1 2 3) etherTypeIpv4 ++
    ipv4Header 30 0 ipv4ProtocolUdp (ip4 10 147 17 20) (ip4 10 147 17 6) ++
    [0, 0, 0x88, 0xb8, 0, 10, 0, 0, 1, 2]

theorem nativeUdpGuardReserve_zero (env : Env) (w : World) :
    nativeUdpGuardReserve env 0 w = .ok uvEinval w := by
  simp only [nativeUdpGuardReserve, bind_apply, getLp_apply]
  cases w.lp.udpGuard <;> rfl

theorem endpoints_reserved_portless :
    (∃ w' g, reserveAll (calmEnv 1000) [35000, 0, 35000]
        { plainWorld with lp := { plainWorld.lp with udpGuard := some .empty } } = .ok () w' ∧
      w'.lp.udpGuard = some g ∧ g.Valid) ∧
    ∃ w', lanPlayRelayWifiIpv4 (calmEnv 1000) portlessFrame consoleWorld = .ok true w' ∧
      w'.sent = consoleWorld.sent := by
  have hzero : srcPort portlessFrame = 0 := by decide
  have hreserve := nativeUdpGuardReserve_zero (calmEnv 1000) consoleWorld
  rw [← hzero] at hreserve
  obtain ⟨w', g, hrun, hguard, hvalid, -⟩ := (endpoints_reserved (calmEnv 1000)).1 [35000, 0, 35000]
    { plainWorld with lp := { plainWorld.lp with udpGuard := some .empty } } rfl
  exact ⟨⟨w', g, hrun, hguard, hvalid⟩, (endpoints_reserved (calmEnv 1000)).2.2 portlessFrame
    consoleWorld consoleWorld uvEinval (by decide +kernel) (by decide +kernel) hreserve (by decide)⟩

end Grid0Relay
