import Grid0Relay.Logic.Carrier
import Grid0Relay.Logic.Environments

/-!
# What the console's traffic looks like on the overlay

Two promises about the IPv4 frames one Wi-Fi frame puts on ZeroTier. Neither holds
for every frame. The relay path is tried before the gateway path and takes every
destination of the overlay, the gateway's own address included; and what it declines
the gateway path forwards without translating it, by the mask of `--subnet` instead
of the adapter's.
-/

namespace Grid0Relay

open Lib Lib.Exec

/-- The IPv4 frames a step put on the overlay. -/
def overlayFramesOf (w w' : World) : List Injection :=
  (newFrames w w').filter fun i => OverlayIpv4 i

theorem Overlays.eq {frames : List Injection} {w w' : World} (h : Overlays frames w w') :
    overlayFramesOf w w' = frames := h.newFrames

/-! ## The gateway's own traffic -/

/-- The address the relay gives the packet is the gateway's. -/
def ForGateway (lp : LanPlay) (frame : Bytes) : Prop :=
  if isNintendoLanBroadcast (Frame.ipDst frame) then lp.zerotierBroadcastIp = lp.packetCtx.ip
  else Frame.ipDst frame = lp.packetCtx.ip

theorem overlayDst_eq_gateway (lp : LanPlay) (frame : Bytes) :
    overlayDst lp frame = lp.packetCtx.ip ↔ ForGateway lp frame := by
  unfold overlayDst ForGateway
  split <;> rfl

/-- A packet in a frame of the overlay. -/
theorem ipDst_zerotierFrame_packetOf {lp : LanPlay} {mac : Mac} {frame : Bytes}
    (h : 20 ≤ Frame.ipTotalLen frame) :
    Frame.ipDst (zerotierFrame lp mac (packetOf frame)) = Frame.ipDst frame := by
  rw [zerotierFrame, ipDst_etherHeader, Frame.ipDst, packetOf, Bytes.vecAt_eq_iff]
  intro i hi
  rw [Bytes.byte_slice (by omega), Nat.add_assoc]

theorem Relayed.forwardable {options : Options} {mac : Mac} {lp : LanPlay} {frame : Bytes}
    (h : Relayed options mac lp frame) :
    HasPacket frame ∧ Rewritable (packetOf frame) (packetOf frame).length :=
  ⟨h.2.1, h.1.wellFormed.rewritable h.2.1⟩

theorem Untranslated.ipDst {options : Options} {mac : Mac} {lp : LanPlay} {frame : Bytes}
    (h : Untranslated options mac lp frame) (dst : Mac) :
    Frame.ipDst (zerotierFrame lp dst (packetOf frame)) = Frame.ipDst frame := by
  obtain ⟨_, _, _, hheader, htotal, _⟩ := h.1.wellFormed
  exact ipDst_zerotierFrame_packetOf (by omega)

/-- **Gateway traffic.** No IPv4 frame for the fake gateway leaves on the overlay,
whatever the environment answers, exactly when the frame is not one the relay path
readdresses to it. -/
theorem gateway_traffic_local (options : Options) (mac : Mac) (w : World) (frame : Bytes) :
    (∀ env : Env, env.options = options →
      ∀ i ∈ overlayFramesOf w (after (lanPlayPcapHandler env mac frame w)),
        Frame.ipDst i.frame ≠ w.lp.packetCtx.ip) ↔
      ¬ (Relayed options mac w.lp frame ∧ ForGateway w.lp frame) := by
  constructor
  · rintro hall ⟨hrelayed, hgateway⟩
    -- in a calm environment the packet leaves
    obtain ⟨frames, hover, dst, rfl⟩ := hrelayed.leaves (calm_calmEnv 0 options)
    refine hall { calmEnv 0 with options } rfl _ (by rw [hover.eq]; exact List.mem_singleton_self _) ?_
    rw [zerotierFrame_outgoing, ipDst_carrier hrelayed.forwardable.2]
    exact (overlayDst_eq_gateway w.lp frame).mpr hgateway
  · rintro hno env rfl i hi
    obtain ⟨frames, hover, hcase⟩ := handler_egress env mac frame w
    rw [hover.eq] at hi
    rcases hcase with rfl | ⟨hrelayed, dst, rfl⟩ | ⟨huntranslated, dst, rfl⟩
    · simp at hi
    · obtain rfl := List.mem_singleton.mp hi
      rw [zerotierFrame_outgoing, ipDst_carrier hrelayed.forwardable.2]
      exact fun h => hno ⟨hrelayed, (overlayDst_eq_gateway w.lp frame).mp h⟩
    · obtain rfl := List.mem_singleton.mp hi
      rw [huntranslated.ipDst]
      exact huntranslated.2.2.2.1

/-- A ping of the console to this address. -/
def pingFrame (dst : Ip4) : Bytes :=
  etherHeader (mac6 0x02 0 0 0 0 0x10) (mac6 0x98 0xb6 0xe9 1 2 3) etherTypeIpv4 ++
    ipv4Header 28 0 ipv4ProtocolIcmp (ip4 10 147 17 20) dst ++ [8, 0, 0xf7, 0xff, 0, 0, 0, 0]

/-- The console's ping to its gateway leaves on the overlay. -/
theorem ping_to_gateway_leaves :
    Reachable consoleWorld ∧ consoleWorld.lp.packetCtx.ip = ip4 10 147 17 1 ∧
      (overlayFramesOf consoleWorld (after (lanPlayPcapHandler (calmEnv 1000)
        consoleWorld.lp.wifiMac (pingFrame (ip4 10 147 17 1)) consoleWorld))).map
        (fun i => Frame.ipDst i.frame) = [ip4 10 147 17 1] :=
  ⟨consoleWorld_reachable, by decide +kernel⟩

/-! ## The discipline of the relay path -/

/-- What a frame of the overlay should be. -/
structure Disciplined (lp : LanPlay) (frame : Bytes) : Prop where
  etherSrc : Frame.etherSrc frame = lp.zerotierMac
  ipSrc : Frame.ipSrc frame = lp.zerotierIp
  inOverlay : InOverlay lp (Frame.ipDst frame)
  noPortUnreachable : ¬ PortUnreachable frame

theorem Relayed.disciplined {options : Options} {mac dst : Mac} {lp : LanPlay} {frame : Bytes}
    (h : Relayed options mac lp frame) (hconfig : Configured lp.config) :
    Disciplined lp (zerotierFrame lp dst (outgoing lp frame)) := by
  obtain ⟨hpacket, hrewrite⟩ := h.forwardable
  rw [zerotierFrame_outgoing]
  refine ⟨etherSrc_carrier, ipSrc_carrier hrewrite, ?_, ?_⟩
  · rw [ipDst_carrier hrewrite, overlayDst]
    split
    · exact broadcast_inOverlay hconfig
    · rename_i hnin
      exact (isZerotierDestination_iff hconfig _).mp (h.2.2.1.resolve_left hnin)
  · rw [portUnreachable_carrier hpacket hrewrite]
    exact h.2.2.2.1

/-- **Egress discipline.** In a session, one Wi-Fi frame puts at most one IPv4 frame
on the overlay, translated and for a peer, exactly when it is not forwarded as it
came. -/
theorem egress_discipline (options : Options) (mac : Mac) (w : World) (frame : Bytes)
    (reachable : Reachable w) :
    (∀ env : Env, env.options = options →
      (overlayFramesOf w (after (lanPlayPcapHandler env mac frame w))).length ≤ 1 ∧
      ∀ i ∈ overlayFramesOf w (after (lanPlayPcapHandler env mac frame w)),
        Disciplined w.lp i.frame) ↔
      ¬ Untranslated options mac w.lp frame := by
  have hconfig := reachable.configured
  constructor
  · intro hall huntranslated
    obtain ⟨frames, hover, dst, rfl⟩ := huntranslated.leaves (calm_calmEnv 0 options)
    obtain ⟨_, hdisciplined⟩ := hall { calmEnv 0 with options } rfl
    have hin := (hdisciplined _ (by rw [hover.eq]; exact List.mem_singleton_self _)).inOverlay
    rw [huntranslated.ipDst] at hin
    exact huntranslated.2.2.2.2.2.2 ((isZerotierDestination_iff hconfig _).mpr hin)
  · rintro hno env rfl
    obtain ⟨frames, hover, hcase⟩ := handler_egress env mac frame w
    rw [hover.eq]
    rcases hcase with rfl | ⟨hrelayed, dst, rfl⟩ | ⟨huntranslated, _⟩
    · simp
    · refine ⟨Nat.le_refl _, fun i hi => ?_⟩
      obtain rfl := List.mem_singleton.mp hi
      exact hrelayed.disciplined hconfig
    · exact absurd huntranslated hno

/-- The console's ping to a peer. -/
theorem egress_discipline_ping :
    Reachable consoleWorld ∧ ∀ env : Env, env.options = (calmEnv 1000).options →
      (overlayFramesOf consoleWorld (after (lanPlayPcapHandler env consoleWorld.lp.wifiMac
        (pingFrame (ip4 10 147 17 30)) consoleWorld))).length ≤ 1 ∧
      ∀ i ∈ overlayFramesOf consoleWorld (after (lanPlayPcapHandler env consoleWorld.lp.wifiMac
        (pingFrame (ip4 10 147 17 30)) consoleWorld)), Disciplined consoleWorld.lp i.frame :=
  ⟨consoleWorld_reachable, (egress_discipline (calmEnv 1000).options consoleWorld.lp.wifiMac
    consoleWorld (pingFrame (ip4 10 147 17 30)) consoleWorld_reachable).mpr
    fun h => h.2.2.2.2.2.2 (by decide +kernel)⟩

/-- A session whose `--subnet` is wider than the network of its adapter. -/
def wideWorld : World :=
  after (handle (calmEnv 1000) (.wifi helloFrame) (after (lanPlayInit (calmEnv 1000)
    { plainSetup (ip4 10 147 17 5) (mac6 0x02 0 0 0 0 0x20) with
      subnet := some "10.147.0.0/16" } World.boot)))

/-- The console's ping outside the adapter's network leaves with the console's own
address. -/
theorem ping_outside_leaves_untranslated :
    Reachable wideWorld ∧
      (overlayFramesOf wideWorld (after (lanPlayPcapHandler (calmEnv 1000) wideWorld.lp.wifiMac
        (pingFrame (ip4 10 147 99 1)) wideWorld))).map
        (fun i => (Frame.ipSrc i.frame, Frame.ipDst i.frame)) =
        [(ip4 10 147 17 20, ip4 10 147 99 1)] ∧
      wideWorld.lp.zerotierIp = ip4 10 147 17 5 ∧
      ¬ InOverlay wideWorld.lp (ip4 10 147 99 1) :=
  ⟨Process.event _ _ (Reachable.of_start (by decide +kernel)), by unfold InOverlay; decide +kernel⟩

end Grid0Relay
