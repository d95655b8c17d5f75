import Grid0Relay.Logic.Gateway

/-!
# What leaves on the overlay after a Wi-Fi frame

The log of a run is a list of injections; `Overlays` picks the IPv4 frames on
ZeroTier out of what a step appended. `wifiHandler_egress` bounds them for one
Wi-Fi frame: nothing, one translated packet of the relay path, or one packet the
gateway path forwards as it came.
-/

namespace Grid0Relay

open Lib Lib.Exec

/-! ## The overlay part of the log -/

/-- What a step appended to the log. -/
def newFrames (w w' : World) : List Injection := w'.sent.drop w.sent.length

theorem newFrames_append {w w' : World} {frames : List Injection}
    (h : w'.sent = w.sent ++ frames) : newFrames w w' = frames := by
  rw [newFrames, h, List.drop_left]

theorem newFrames_nil {w w' : World} (h : w'.sent = w.sent) : newFrames w w' = [] := by
  rw [newFrames, h, List.drop_length]

/-- The log grew, by these IPv4 frames on the overlay and by others. -/
def Overlays (frames : List Injection) (w w' : World) : Prop :=
  ∃ all, w'.sent = w.sent ++ all ∧ all.filter (fun i => OverlayIpv4 i) = frames

theorem Overlays.trans {a b : List Injection} {w w' w'' : World} (h : Overlays a w w')
    (h' : Overlays b w' w'') : Overlays (a ++ b) w w'' := by
  obtain ⟨first, hfirst, rfl⟩ := h
  obtain ⟨second, hsecond, rfl⟩ := h'
  exact ⟨first ++ second, by rw [hsecond, hfirst, List.append_assoc], List.filter_append _ _⟩

theorem Overlays.of_emits {w w' : World} (h : Emits (fun i => ¬ OverlayIpv4 i) w w') :
    Overlays [] w w' := by
  obtain ⟨all, hall, hno⟩ := h
  exact ⟨all, hall, List.filter_eq_nil_iff.mpr fun i hi => by simpa using hno i hi⟩

theorem Overlays.of_sent {w w' : World} (h : w'.sent = w.sent) : Overlays [] w w' :=
  ⟨[], by rw [h, List.append_nil], rfl⟩

theorem Overlays.newFrames {frames : List Injection} {w w' : World} (h : Overlays frames w w') :
    (newFrames w w').filter (fun i => OverlayIpv4 i) = frames := by
  obtain ⟨all, hall, rfl⟩ := h
  rw [newFrames_append hall]

/-- A step that cannot reach the overlay. -/
theorem overlays_of_steps {α : Type} {x : RelayM α}
    (h : Steps (Emits fun i => ¬ OverlayIpv4 i) x) (w : World) : Overlays [] w (after (x w)) :=
  Overlays.of_emits (h w)

/-! ## The senders -/

theorem broadcast_overlays (env : Env) (packet : Payload) (w : World) :
    ∃ frames, Overlays frames w (after (lanPlaySendZerotierIpv4Broadcast env packet w)) ∧
      (frames = [] ∨ packet.Sendable ∧ packet.Inside ∧ Carries w.lp packet.bytes frames) := by
  rw [lanPlaySendZerotierIpv4Broadcast_eq]
  by_cases hsend : packet.Sendable
  · rw [if_pos hsend]
    by_cases hin : packet.Inside
    · rw [if_pos hin]
      refine ⟨_, ⟨_, rfl, rfl⟩, Or.inr ⟨hsend, hin, broadcastMac, ?_⟩⟩
      simp [overlayIpv4_zerotierFrame]
    · rw [if_neg hin]
      exact ⟨[], Overlays.of_sent rfl, Or.inl rfl⟩
  · rw [if_neg hsend]
    exact ⟨[], Overlays.of_sent rfl, Or.inl rfl⟩

theorem unicast_overlays (env : Env) (dst : Ip4) (packet : Payload) (w : World) :
    ∃ frames, Overlays frames w (after (lanPlaySendZerotierIpv4 env dst packet w)) ∧
      (frames = [] ∨ packet.Sendable ∧ packet.Inside ∧ Carries w.lp packet.bytes frames) := by
  by_cases hsend : packet.Sendable
  · cases hfirst : neighborAt env w w.readings dst with
    | none =>
      rw [lanPlaySendZerotierIpv4_unknown hsend hfirst]
      obtain ⟨frames, hover, hcase⟩ := broadcast_overlays env packet
        ((w.tick env).sendZerotier (zerotierArpFrame w.lp w.lp.zerotierIp dst))
      have harp : Overlays [] w
          ((w.tick env).sendZerotier (zerotierArpFrame w.lp w.lp.zerotierIp dst)) :=
        ⟨_, rfl, by simp [not_overlayIpv4_arp]⟩
      exact ⟨frames, harp.trans hover, hcase⟩
    | some first =>
      cases hsecond : neighborAt env w (w.readings + 1) dst with
      | none =>
        rw [lanPlaySendZerotierIpv4_expired hsend hfirst hsecond]
        exact ⟨[], Overlays.of_sent rfl, Or.inl rfl⟩
      | some second =>
        rw [lanPlaySendZerotierIpv4_known hsend hfirst hsecond]
        by_cases hin : packet.Inside
        · rw [if_pos hin]
          refine ⟨_, ⟨_, rfl, rfl⟩, Or.inr ⟨hsend, hin, second.mac, ?_⟩⟩
          simp [overlayIpv4_zerotierFrame]
        · rw [if_neg hin]
          exact ⟨[], Overlays.of_sent rfl, Or.inl rfl⟩
  · rw [lanPlaySendZerotierIpv4_refused hsend]
    exact ⟨[], Overlays.of_sent rfl, Or.inl rfl⟩

/-- Every endpoint can be opened. -/
structure Willing (env : Env) : Prop where
  calloc : ∀ n, env.calloc n = true
  uvUdpInit : ∀ n, env.uvUdpInit n = 0
  uvUdpBind : ∀ n, env.uvUdpBind n = 0
  uvUdpRecvStart : ∀ n, env.uvUdpRecvStart n = 0

/-- Where there is room for an endpoint it is opened. -/
theorem Willing.endpointReady {env : Env} {w : World} {frame : Bytes} (willing : Willing env)
    (h : EndpointPossible w.lp frame) : EndpointReady env w frame := by
  intro hneeds w' hguard
  obtain ⟨hport, guard, hsome, hroom⟩ := h hneeds
  rw [hsome] at hguard
  simp only [nativeUdpGuardReserve, bind_apply, getLp_apply, hguard, ite_run, if_neg hport,
    pure_apply]
  by_cases hknown : srcPort frame ∈ guard.ports
  · exact ⟨w', by rw [if_pos hknown]⟩
  · rw [if_neg hknown, if_neg (Nat.not_le.mpr (hroom.resolve_left hknown))]
    simp only [ask_apply, willing.calloc, willing.uvUdpInit, willing.uvUdpBind,
      willing.uvUdpRecvStart, Bool.not_true, Bool.false_eq_true, if_false, ne_eq,
      not_true_eq_false, if_true, modifyLp_apply]
    exact ⟨_, rfl⟩

/-- Nothing fails and the clock stands still. -/
structure Calm (env : Env) : Prop extends Willing env where
  clock : ∀ n, env.clock n = env.clock 0

section Calm

variable {env : Env} (calm : Calm env)
include calm

theorem Calm.neighborAt (w : World) (n m : Nat) (ip : Ip4) :
    neighborAt env w n ip = neighborAt env w m ip := by
  rw [Grid0Relay.neighborAt, Grid0Relay.neighborAt, calm.clock n, calm.clock m]

theorem Calm.unicast_overlays (dst : Ip4) {packet : Payload} (w : World) (hsend : packet.Sendable)
    (hin : packet.Inside) :
    ∃ frames, Overlays frames w (after (lanPlaySendZerotierIpv4 env dst packet w)) ∧
      Carries w.lp packet.bytes frames := by
  cases hfirst : Grid0Relay.neighborAt env w w.readings dst with
  | none =>
    rw [lanPlaySendZerotierIpv4_unknown hsend hfirst, lanPlaySendZerotierIpv4Broadcast_eq,
      if_pos hsend, if_pos hin]
    refine ⟨_, ⟨[⟨.zerotier, zerotierArpFrame w.lp w.lp.zerotierIp dst⟩,
      ⟨.zerotier, zerotierFrame w.lp broadcastMac packet.bytes⟩], ?_, rfl⟩, broadcastMac,
      by simp [overlayIpv4_zerotierFrame, not_overlayIpv4_arp]⟩
    simp only [World.sendZerotier, World.tick, after_ok, List.append_assoc]
    rfl
  | some first =>
    have hsecond := calm.neighborAt w (w.readings + 1) w.readings dst
    rw [hfirst] at hsecond
    rw [lanPlaySendZerotierIpv4_known hsend hfirst hsecond, if_pos hin]
    exact ⟨_, ⟨_, rfl, rfl⟩, first.mac, by simp [overlayIpv4_zerotierFrame]⟩

/-- No entry expires between the two lookups. -/
theorem Calm.forwardedFrames {w : World} (frame : Bytes) :
    ∃ frames, forwardedFrames env w frame = some frames := by
  rw [Grid0Relay.forwardedFrames, overlayFrames]
  split
  · exact ⟨_, rfl⟩
  · rw [calm.neighborAt w (w.readings + 1) w.readings]
    cases Grid0Relay.neighborAt env w w.readings (overlayDst w.lp frame) with
    | none => exact ⟨_, rfl⟩
    | some peer => exact ⟨_, rfl⟩

end Calm

/-! ## The gateway path -/

/-- What the gateway forwards of a Wi-Fi frame: a packet that fits, is not for itself,
and is for the subnet or for every console. -/
def Forwards (lp : LanPlay) (frame : Bytes) : Prop :=
  (rawPacket frame).Sendable ∧ (rawPacket frame).Inside ∧ Frame.ipDst frame ≠ lp.packetCtx.ip ∧
    (isNintendoLanBroadcast (Frame.ipDst frame) ∨
      isSubnet (Frame.ipDst frame) lp.packetCtx.subnetNet lp.packetCtx.subnetMask)

theorem dispatchIpv4_subnet {env : Env} {frame : Bytes} {etherDst : Mac} {w : World}
    (hwifi : w.lp.ingressZerotier = false) (hgw : Frame.ipDst frame ≠ w.lp.packetCtx.ip)
    (hnin : ¬ isNintendoLanBroadcast (Frame.ipDst frame))
    (hsub : isSubnet (Frame.ipDst frame) w.lp.packetCtx.subnetNet w.lp.packetCtx.subnetMask) :
    dispatchIpv4 env frame (ipv4Of frame) etherDst w =
      lanPlaySendZerotierIpv4 env (Frame.ipDst frame) (rawPacket frame) w := by
  have hdst : (ipv4Of frame).dst = Frame.ipDst frame := rfl
  simp only [dispatchIpv4, bind_apply, getLp_apply, hwifi, hdst, Bool.false_eq_true, if_false,
    Bool.not_false, if_true, ite_self, if_neg hgw, if_neg hnin, if_pos hsub]
  rfl

theorem dispatchIpv4_overlays (env : Env) (frame : Bytes) (etherDst : Mac) (w : World)
    (hwifi : w.lp.ingressZerotier = false) :
    ∃ frames, Overlays frames w (after (dispatchIpv4 env frame (ipv4Of frame) etherDst w)) ∧
      (frames = [] ∨ Forwards w.lp frame ∧ Carries w.lp (packetOf frame) frames) := by
  have hlocal : ∀ {α : Type} {x : RelayM α}, Steps (Emits fun i => ¬ OverlayIpv4 i) x →
      ∃ frames, Overlays frames w (after (x w)) ∧
        (frames = [] ∨ Forwards w.lp frame ∧ Carries w.lp (packetOf frame) frames) :=
    fun h => ⟨[], overlays_of_steps h w, Or.inl rfl⟩
  have hdst : (ipv4Of frame).dst = Frame.ipDst frame := rfl
  by_cases hgw : Frame.ipDst frame = w.lp.packetCtx.ip
  · simp only [dispatchIpv4, bind_apply, getLp_apply, hdst, if_pos hgw]
    exact hlocal (by simp)
  by_cases hnin : isNintendoLanBroadcast (Frame.ipDst frame) = true
  · simp only [dispatchIpv4, bind_apply, getLp_apply, hwifi, hdst, if_neg hgw, if_pos hnin,
      Bool.false_eq_true, if_false]
    obtain ⟨frames, hover, hcase⟩ := broadcast_overlays env (rawPacket frame) w
    exact ⟨frames, hover, hcase.imp_right fun h => ⟨⟨h.1, h.2.1, hgw, Or.inl hnin⟩, h.2.2⟩⟩
  by_cases hsub : isSubnet (Frame.ipDst frame) w.lp.packetCtx.subnetNet
      w.lp.packetCtx.subnetMask = true
  · rw [dispatchIpv4_subnet hwifi hgw hnin hsub]
    obtain ⟨frames, hover, hcase⟩ := unicast_overlays env (Frame.ipDst frame) (rawPacket frame) w
    exact ⟨frames, hover, hcase.imp_right fun h => ⟨⟨h.1, h.2.1, hgw, Or.inr hsub⟩, h.2.2⟩⟩
  · simp only [dispatchIpv4, bind_apply, getLp_apply, hdst, if_neg hgw, if_neg hnin, if_neg hsub]
    exact hlocal (steps_ite (fun _ => steps_bind (steps_gatewayOnPacket _ _) fun _ => steps_pure _)
      fun _ => steps_pure _)

theorem getPacket_overlays (env : Env) (frame : Bytes) (w : World)
    (hwifi : w.lp.ingressZerotier = false) (htype : Frame.etherType frame = etherTypeIpv4)
    (hmin : 34 ≤ frame.length) (hsrc : Frame.etherSrc frame ≠ w.lp.packetCtx.mac) :
    ∃ frames, Overlays frames w (after (getPacket env frame w)) ∧
      (frames = [] ∨ frame.length < 65536 ∧ Forwards w.lp frame ∧
        Carries w.lp (packetOf frame) frames) := by
  by_cases hmax : frame.length < 65536
  · rw [getPacket_ipv4 htype hmin hmax hsrc, after_discard]
    obtain ⟨frames, hover, hcase⟩ := dispatchIpv4_overlays env frame (Frame.etherDst frame)
      ((w.download frame).learnArp env .packetCtx (Frame.etherSrc frame) (Frame.ipSrc frame)) hwifi
    exact ⟨frames, hover, hcase.imp_right fun h => ⟨hmax, h⟩⟩
  · rw [getPacket_long (by omega)]
    exact ⟨[], Overlays.of_sent rfl, Or.inl rfl⟩

/-- What it does not forward puts nothing on the overlay, no ARP frame either. -/
theorem dispatchIpv4_silent (env : Env) (frame : Bytes) (etherDst : Mac) (w : World)
    (hwifi : w.lp.ingressZerotier = false) (hin : (rawPacket frame).Inside)
    (h : ¬ Forwards w.lp frame) :
    Emits (fun i => i.iface = .wifi) w
      (after (dispatchIpv4 env frame (ipv4Of frame) etherDst w)) := by
  have hdst : (ipv4Of frame).dst = Frame.ipDst frame := rfl
  by_cases hgw : Frame.ipDst frame = w.lp.packetCtx.ip
  · simp only [dispatchIpv4, bind_apply, getLp_apply, hdst, if_pos hgw]
    exact steps_ite (fun _ => steps_processIcmp _ _ _) (fun _ => steps_pure _) w
  by_cases hnin : isNintendoLanBroadcast (Frame.ipDst frame) = true
  · have hsend : ¬ (rawPacket frame).Sendable := fun hsend => h ⟨hsend, hin, hgw, Or.inl hnin⟩
    simp only [dispatchIpv4, bind_apply, getLp_apply, hwifi, hdst, if_neg hgw, if_pos hnin,
      Bool.false_eq_true, if_false]
    show Emits _ w (after (lanPlaySendZerotierIpv4Broadcast env (rawPacket frame) w))
    rw [lanPlaySendZerotierIpv4Broadcast_eq, if_neg hsend]
    exact refl (r := Emits fun i => i.iface = .wifi) w
  by_cases hsub : isSubnet (Frame.ipDst frame) w.lp.packetCtx.subnetNet
      w.lp.packetCtx.subnetMask = true
  · have hsend : ¬ (rawPacket frame).Sendable := fun hsend => h ⟨hsend, hin, hgw, Or.inr hsub⟩
    rw [dispatchIpv4_subnet hwifi hgw hnin hsub, lanPlaySendZerotierIpv4_refused hsend]
    exact refl (r := Emits fun i => i.iface = .wifi) w
  · simp only [dispatchIpv4, bind_apply, getLp_apply, hdst, if_neg hgw, if_neg hnin, if_neg hsub]
    exact steps_ite (fun _ => steps_bind (steps_gatewayOnPacket _ _) fun _ => steps_pure _)
      (fun _ => steps_pure _) w

/-- An ARP frame puts no IPv4 frame on the overlay. -/
theorem getPacket_arp_overlays (env : Env) (frame : Bytes) (w : World)
    (htype : Frame.etherType frame = etherTypeArp) (hmin : 14 ≤ frame.length) :
    Overlays [] w (after (getPacket env frame w)) := by
  by_cases hmax : frame.length < 65536
  · rw [getPacket_eq hmax, after_discard, processEther_eq env frame _ hmin, if_pos htype]
    split
    · exact Overlays.of_sent rfl
    · have hcount : Overlays [] w (w.download frame) := Overlays.of_sent rfl
      exact hcount.trans (overlays_of_steps (steps_processArp env frame) _)
  · rw [getPacket_long (by omega)]
    exact Overlays.of_sent rfl

/-! ## A Wi-Fi frame -/

/-- The frame changes the MAC replies go to. -/
def Adopts (lp : LanPlay) (frame : Bytes) : Prop :=
  ¬ lp.switchSeen ∨
    (Frame.etherSrc frame ≠ lp.switchMac ∧ ¬ lp.switchMacConfirmed ∧ Direct lp frame)
deriving Decidable

/-- The clock readings taken before a frame of the console is served. -/
def consoleReading (w : World) (frame : Bytes) : Nat :=
  if Adopts w.lp frame then w.readings + 1 else w.readings

/-- The world in which a frame of the console is served: it is learned, at most the
probe is sent, and nothing an overlay packet is made of has changed. -/
structure Entered (frame : Bytes) (w w' : World) : Prop where
  probes : Emits (fun i => i.iface = .wifi) w w'
  readings : w'.readings = consoleReading w frame
  config : w'.lp.config = w.lp.config
  neighbors : w'.lp.zerotierNeighbors = w.lp.zerotierNeighbors
  seen : w'.lp.switchSeen = true
  switchIp : w'.lp.switchIp = senderIp frame
  guard : w'.lp.udpGuard = w.lp.udpGuard
  wifi : w'.lp.ingressZerotier = false
  proxied : w'.proxied = w.proxied
  room : ∀ now, w.lp.packetCtx.arpList.Takes (senderIp frame) now →
    w'.lp.packetCtx.arpList.Takes (senderIp frame) now

theorem Entered.quiet {frame : Bytes} {w w' : World} (h : Entered frame w w') :
    Overlays [] w w' :=
  Overlays.of_emits (h.probes.mono fun i hwifi hover =>
    absurd (hwifi.symm.trans hover.1) (by decide))

/-- What `learn_local_switch` leaves when it takes a frame. -/
theorem Learned.entered {env : Env} {frame : Bytes} {w w' : World}
    (h : Learned env frame w true w') :
    (∃ probes, w'.sent = w.sent ++ probes ∧ ∀ i ∈ probes, i.iface = .wifi) ∧
      w'.readings = consoleReading w frame ∧ w'.lp.switchSeen = true ∧
      w'.lp.switchIp = senderIp frame ∧ w'.lp.udpGuard = w.lp.udpGuard ∧
      w'.lp.ingressZerotier = w.lp.ingressZerotier ∧ w'.proxied = w.proxied ∧
      ∀ now, w.lp.packetCtx.arpList.Takes (senderIp frame) now →
        w'.lp.packetCtx.arpList.Takes (senderIp frame) now := by
  have hsame : ∃ probes, w.sent = w.sent ++ probes ∧ ∀ i ∈ probes, i.iface = .wifi :=
    ⟨[], (List.append_nil _).symm, by simp⟩
  cases h with
  | conflict _ seen same other weak =>
    have hno : ¬ Adopts w.lp frame := by
      rintro (hnew | ⟨_, hconfirmed, hdirect⟩)
      · exact hnew seen
      · exact weak.elim hconfirmed fun h => h hdirect
    exact ⟨hsame, (if_neg hno).symm, seen, same.symm, rfl, rfl, rfl, fun _ h => h⟩
  | again _ seen _ same =>
    have hno : ¬ Adopts w.lp frame := fun h => h.elim (fun hnew => hnew seen) fun h => h.1 same
    exact ⟨hsame, (if_neg hno).symm, rfl, rfl, rfl, rfl, rfl, fun _ h => h⟩
  | adopted _ new =>
    have hyes : Adopts w.lp frame := new.imp_right fun h => h.2
    have hreading : w.readings + 1 = consoleReading w frame := (if_pos hyes).symm
    unfold World.adopt
    split
    · exact ⟨hsame, hreading, rfl, rfl, rfl, rfl, rfl, fun _ h => h.set _ _ _⟩
    · exact ⟨⟨[⟨.wifi, _⟩], rfl, by simp⟩, hreading, rfl, rfl, rfl, rfl, rfl,
        fun _ h => h.set _ _ _⟩

theorem handler_served {env : Env} {mac : Mac} {frame : Bytes} {w : World}
    (hskip : ¬ Skipped mac frame) (h : Served env.options w.lp frame) :
    ∃ w', Entered frame w w' ∧
      lanPlayPcapHandler env mac frame w = serveConsole env mac frame w' := by
  have h' : Served env.options (w.enterWifi frame).lp frame := h
  obtain ⟨w', hrun, hlearned, hserve⟩ := @wifiInput_served env mac frame _ h'
  have hconfig := (steps_learnLocalSwitch env frame :
    Keeps (fun w : World => w.lp.core.config) _) (w.enterWifi frame)
  have hneighbors := (steps_learnLocalSwitch env frame :
    Keeps (fun w : World => w.lp.core.neighbors) _) (w.enterWifi frame)
  rw [hrun, after_ok] at hconfig hneighbors
  obtain ⟨hprobes, hreading, hseen, hip, hguard, hwifi, hproxied, hroom⟩ := hlearned.entered
  exact ⟨w', ⟨hprobes, hreading, hconfig, hneighbors, hseen, hip, hguard, hwifi, hproxied, hroom⟩,
    by rw [lanPlayPcapHandler_eq, if_neg hskip, hserve]⟩

section Config

variable {lp lp' : LanPlay} (h : lp'.config = lp.config)
include h

theorem isZerotierDestination_congr (ip : Ip4) :
    isZerotierDestination lp' ip = isZerotierDestination lp ip := by
  have hbroadcast : lp'.zerotierBroadcastIp = _ := congrArg Config.zerotierBroadcastIp h
  have hmask : lp'.zerotierNetmask = _ := congrArg Config.zerotierNetmask h
  have hip : lp'.zerotierIp = _ := congrArg Config.zerotierIp h
  rw [isZerotierDestination, hbroadcast, hmask, hip]
  rfl

theorem overlayDst_congr (frame : Bytes) : overlayDst lp' frame = overlayDst lp frame := by
  have hbroadcast : lp'.zerotierBroadcastIp = _ := congrArg Config.zerotierBroadcastIp h
  rw [overlayDst, hbroadcast]
  rfl

theorem outgoing_congr (frame : Bytes) : outgoing lp' frame = outgoing lp frame := by
  have hip : lp'.zerotierIp = _ := congrArg Config.zerotierIp h
  rw [outgoing, overlayDst_congr h, hip]
  rfl

theorem Carries.congr {ip : Bytes} {frames : List Injection} (hc : Carries lp' ip frames) :
    Carries lp ip frames := by
  have hmac : lp'.zerotierMac = _ := congrArg Config.zerotierMac h
  obtain ⟨mac, hframes⟩ := hc
  exact ⟨mac, by rw [hframes, zerotierFrame, hmac]; rfl⟩

theorem forwards_congr (frame : Bytes) : Forwards lp' frame ↔ Forwards lp frame := by
  have hgw : lp'.packetCtx.ip = _ := congrArg Config.gatewayIp h
  have hnet : lp'.packetCtx.subnetNet = _ := congrArg Config.subnetNet h
  have hmask : lp'.packetCtx.subnetMask = _ := congrArg Config.subnetMask h
  rw [Forwards, hgw, hnet, hmask]
  rfl

end Config

section Wifi

variable (options : Options) (mac : Mac) (lp : LanPlay) (frame : Bytes)

/-- An IPv4 frame the handler takes for the console's. -/
def FromConsole : Prop :=
  ¬ Skipped mac frame ∧ Served options lp frame ∧ Frame.etherType frame = etherTypeIpv4

/-- It leaves through `lan_play_relay_wifi_ipv4`. -/
def Relayed : Prop :=
  FromConsole options mac lp frame ∧ HasPacket frame ∧
    (isNintendoLanBroadcast (Frame.ipDst frame) ∨ isZerotierDestination lp (Frame.ipDst frame)) ∧
    ¬ PortUnreachable frame ∧ EndpointPossible lp frame

/-- It leaves through `process_ipv4`, as it came: the two notions of the subnet
disagree on its destination. -/
def Untranslated : Prop :=
  FromConsole options mac lp frame ∧ frame.length < 65536 ∧
    Frame.ipTotalLen frame ≤ etherMtu ∧ Frame.ipDst frame ≠ lp.packetCtx.ip ∧
    ¬ isNintendoLanBroadcast (Frame.ipDst frame) ∧
    isSubnet (Frame.ipDst frame) lp.packetCtx.subnetNet lp.packetCtx.subnetMask ∧
    ¬ isZerotierDestination lp (Frame.ipDst frame)

end Wifi

section Wifi

variable {options : Options} {mac : Mac} {lp : LanPlay} {frame : Bytes}

theorem FromConsole.wellFormed (h : FromConsole options mac lp frame) : WellFormedIpv4 frame := by
  obtain ⟨_, ⟨_, _, ⟨⟨_, _, hwell⟩, _⟩, _⟩, htype⟩ := h
  refine hwell.resolve_left fun harp => ?_
  exact etherTypeIpv4_ne_arp (htype.symm.trans harp.1)

/-- The header test never fails on such a frame. -/
theorem WellFormedIpv4.rewritable (h : WellFormedIpv4 frame) (hpacket : HasPacket frame) :
    Rewritable (packetOf frame) (packetOf frame).length :=
  (rewritable_packetOf hpacket).mpr ⟨h.2.2.2.1, h.2.2.2.2.1⟩

theorem WellFormedIpv4.hasPacket (h : WellFormedIpv4 frame) (hmax : frame.length < 65536)
    (hmtu : Frame.ipTotalLen frame ≤ etherMtu) : HasPacket frame := by
  obtain ⟨_, hmin, _, _, _, hin⟩ := h
  refine ⟨?_, hmtu, ?_⟩
  · rw [Nat.mod_eq_of_lt hmax]
    exact hmin
  · rw [Nat.mod_eq_of_lt hmax]
    omega

/-- Served, the frame is for the overlay exactly when its destination is. -/
theorem Entered.forOverlay {w w' : World} (h : Entered frame w w')
    (hwell : WellFormedIpv4 frame) :
    ForOverlay w'.lp frame ↔ HasPacket frame ∧ (isNintendoLanBroadcast (Frame.ipDst frame) ∨
      isZerotierDestination w.lp (Frame.ipDst frame)) := by
  have hsender : senderIp frame = Frame.ipSrc frame :=
    if_neg fun harp => etherTypeIpv4_ne_arp (hwell.1.symm.trans harp)
  rw [ForOverlay, isZerotierDestination_congr h.config, h.switchIp, hsender]
  constructor
  · rintro ⟨_, hpacket, _, haddr⟩
    exact ⟨hpacket, haddr⟩
  · rintro ⟨hpacket, haddr⟩
    exact ⟨h.seen, hpacket, rfl, haddr⟩

theorem Entered.endpointPossible {w w' : World} (h : Entered frame w w') :
    EndpointPossible w'.lp frame ↔ EndpointPossible w.lp frame := by
  rw [EndpointPossible, h.guard]
  rfl

/-- A packet the relay function takes. -/
theorem serveConsole_forward_overlays (env : Env) (mac : Mac) {w : World}
    (htype : Frame.etherType frame = etherTypeIpv4) (h : Forwardable w.lp frame) :
    ∃ frames, Overlays frames w (after (serveConsole env mac frame w)) ∧
      (frames = [] ∨ EndpointPossible w.lp frame ∧ Carries w.lp (outgoing w.lp frame) frames) := by
  rw [serveConsole_forward htype h, after_discard]
  obtain ⟨frames, hsent, hcase⟩ := relayWifi_frames env frame (w.setMac mac)
  refine ⟨_, ⟨frames, hsent, rfl⟩, ?_⟩
  rcases hcase with rfl | ⟨_, hpossible, hframes⟩
  · exact Or.inl rfl
  · exact Or.inr ⟨hpossible, overlayFrames_carries hframes⟩

/-- A packet it declines. -/
theorem serveConsole_gateway_overlays (env : Env) {mac : Mac} {w : World}
    (hwell : WellFormedIpv4 frame) (hskip : ¬ Skipped mac frame)
    (hwifi : w.lp.ingressZerotier = false) (h : ¬ ForOverlay w.lp frame) :
    ∃ frames, Overlays frames w (after (serveConsole env mac frame w)) ∧
      (frames = [] ∨ frame.length < 65536 ∧ Forwards w.lp frame ∧
        Carries w.lp (packetOf frame) frames) := by
  rw [serveConsole_gateway hwell.1 hwell.2.1 h]
  exact getPacket_overlays env frame (w.setMac mac) hwifi hwell.1 hwell.2.1
    fun hown => hskip (Or.inr hown)

/-- What one frame of the console puts on the overlay. -/
theorem console_egress (env : Env) {w w' : World} (hentered : Entered frame w w')
    (hfrom : FromConsole env.options mac w.lp frame) :
    ∃ frames, Overlays frames w' (after (serveConsole env mac frame w')) ∧
      (frames = [] ∨
        (Relayed env.options mac w.lp frame ∧ Carries w.lp (outgoing w.lp frame) frames) ∨
        (Untranslated env.options mac w.lp frame ∧ Carries w.lp (packetOf frame) frames)) := by
  have hwell := hfrom.wellFormed
  have haddr := hentered.forOverlay hwell
  by_cases hfor : ForOverlay w'.lp frame
  · obtain ⟨hpacket, hdst⟩ := haddr.mp hfor
    by_cases hunreachable : PortUnreachable frame
    · have hrelay : lanPlayRelayWifiIpv4 env frame (w'.setMac mac) = .ok true (w'.setMac mac) := by
        rw [lanPlayRelayWifiIpv4_eq, if_pos (show ForOverlay (w'.setMac mac).lp frame from hfor),
          if_pos hunreachable]
      rw [serveConsole_ipv4 hwell.1 hwell.2.1, bind_ok hrelay]
      exact ⟨[], Overlays.of_sent rfl, Or.inl rfl⟩
    · obtain ⟨frames, hover, hcase⟩ := serveConsole_forward_overlays env mac hwell.1
        ⟨hfor, hunreachable, hwell.rewritable hpacket⟩
      refine ⟨frames, hover, hcase.imp_right fun ⟨hpossible, hcarries⟩ => Or.inl ⟨?_, ?_⟩⟩
      · exact ⟨hfrom, hpacket, hdst, hunreachable, hentered.endpointPossible.mp hpossible⟩
      · rw [outgoing_congr hentered.config] at hcarries
        exact hcarries.congr hentered.config
  · obtain ⟨frames, hover, hcase⟩ := serveConsole_gateway_overlays env hwell hfrom.1
      hentered.wifi hfor
    refine ⟨frames, hover, hcase.imp_right fun ⟨hmax, hforwards, hcarries⟩ => Or.inr ⟨?_, ?_⟩⟩
    · obtain ⟨hsend, _, hgw, hsub⟩ := (forwards_congr hentered.config frame).mp hforwards
      -- the relay function declined it, and not for its size
      have hno := fun hdst => hfor (haddr.mpr ⟨hwell.hasPacket hmax hsend.2, hdst⟩)
      exact ⟨hfrom, hmax, hsend.2, hgw, fun h => hno (Or.inl h),
        hsub.resolve_left fun h => hno (Or.inl h), fun h => hno (Or.inr h)⟩
    · exact hcarries.congr hentered.config

/-- What one Wi-Fi frame puts on the overlay: nothing, a translated packet, or a
packet as it came. -/
theorem handler_egress (env : Env) (mac : Mac) (frame : Bytes) (w : World) :
    ∃ frames, Overlays frames w (after (lanPlayPcapHandler env mac frame w)) ∧
      (frames = [] ∨
        (Relayed env.options mac w.lp frame ∧ Carries w.lp (outgoing w.lp frame) frames) ∨
        (Untranslated env.options mac w.lp frame ∧ Carries w.lp (packetOf frame) frames)) := by
  by_cases hskip : Skipped mac frame
  · rw [lanPlayPcapHandler_eq, if_pos hskip]
    exact ⟨[], Overlays.of_sent rfl, Or.inl rfl⟩
  by_cases hserved : Served env.options w.lp frame
  · obtain ⟨w', hentered, hrun⟩ := handler_served hskip hserved
    rw [hrun]
    by_cases htype : Frame.etherType frame = etherTypeIpv4
    · obtain ⟨frames, hover, hcase⟩ := console_egress env hentered ⟨hskip, hserved, htype⟩
      exact ⟨frames, hentered.quiet.trans hover, hcase⟩
    · have harp : Frame.etherType frame = etherTypeArp :=
        (hserved.2.2.1.1.2.2.resolve_right fun hip => htype hip.1).1
      rw [serveConsole_arp harp]
      have hset : Overlays [] w' (w'.setMac mac) := Overlays.of_sent rfl
      have hget := getPacket_arp_overlays env frame (w'.setMac mac) harp hserved.2.2.1.1.1
      exact ⟨[], hentered.quiet.trans (hset.trans hget), Or.inl rfl⟩
  · rw [lanPlayPcapHandler_eq, if_neg hskip]
    have hserved' : ¬ Served env.options (w.enterWifi frame).lp frame := hserved
    have hemit : Emits (fun i => ¬ OverlayIpv4 i) (w.enterWifi frame)
        (after (wifiInput env mac frame (w.enterWifi frame))) := wifiInput_unserved hserved'
    exact ⟨[], Overlays.of_emits hemit, Or.inl rfl⟩

/-- A served IPv4 frame that leaves on neither path puts nothing on the overlay. -/
theorem console_silent (env : Env) {w w' : World} (hentered : Entered frame w w')
    (hfrom : FromConsole env.options mac w.lp frame)
    (hrelayed : ¬ Relayed env.options mac w.lp frame)
    (huntranslated : ¬ Untranslated env.options mac w.lp frame) :
    Emits (fun i => i.iface = .wifi) w' (after (serveConsole env mac frame w')) := by
  have hwell := hfrom.wellFormed
  have haddr := hentered.forOverlay hwell
  obtain ⟨htype, hmin, -, hheader, htotal, hin⟩ := hwell
  have hraw : (rawPacket frame).Inside := Or.inr (by simp only [rawPacket]; omega)
  by_cases hfor : ForOverlay w'.lp frame
  · obtain ⟨hpacket, hdst⟩ := haddr.mp hfor
    by_cases hunreachable : PortUnreachable frame
    · have hrelay : lanPlayRelayWifiIpv4 env frame (w'.setMac mac) = .ok true (w'.setMac mac) := by
        rw [lanPlayRelayWifiIpv4_eq, if_pos (show ForOverlay (w'.setMac mac).lp frame from hfor),
          if_pos hunreachable]
      rw [serveConsole_ipv4 htype hmin, bind_ok hrelay]
      exact Quiet.quiet rfl rfl
    · rw [serveConsole_forward htype
        ⟨hfor, hunreachable, (hfrom.wellFormed).rewritable hpacket⟩, after_discard]
      obtain ⟨frames, hsent, hcase⟩ := relayWifi_frames env frame (w'.setMac mac)
      rcases hcase with rfl | ⟨-, hpossible, -⟩
      · exact ⟨[], hsent, by simp⟩
      · exact absurd ⟨hfrom, hpacket, hdst, hunreachable,
          hentered.endpointPossible.mp hpossible⟩ hrelayed
  · rw [serveConsole_gateway htype hmin hfor]
    by_cases hmax : frame.length < 65536
    · rw [getPacket_ipv4 htype hmin hmax fun hown => hfrom.1 (Or.inr hown), after_discard]
      refine dispatchIpv4_silent env frame _ _ hentered.wifi hraw fun hforwards => ?_
      have hforwards' : Forwards w'.lp frame := hforwards
      obtain ⟨hsend, -, hgw, hsub⟩ := (forwards_congr hentered.config frame).mp hforwards'
      have hno := fun hdst => hfor (haddr.mpr ⟨hfrom.wellFormed.hasPacket hmax hsend.2, hdst⟩)
      exact huntranslated ⟨hfrom, hmax, hsend.2, hgw, fun h => hno (Or.inl h),
        hsub.resolve_left fun h => hno (Or.inl h), fun h => hno (Or.inr h)⟩
    · rw [getPacket_long (by omega)]
      exact Quiet.quiet rfl rfl

/-- Neither does any other Wi-Fi frame with an IPv4 packet. -/
theorem handler_silent (env : Env) {w : World} (htype : Frame.etherType frame = etherTypeIpv4)
    (hrelayed : ¬ Relayed env.options mac w.lp frame)
    (huntranslated : ¬ Untranslated env.options mac w.lp frame) :
    Emits (fun i => i.iface = .wifi) w (after (lanPlayPcapHandler env mac frame w)) := by
  by_cases hskip : Skipped mac frame
  · rw [lanPlayPcapHandler_eq, if_pos hskip]
    exact refl (r := Emits fun i => i.iface = .wifi) w
  by_cases hserved : Served env.options w.lp frame
  · obtain ⟨w', hentered, hrun⟩ := handler_served hskip hserved
    rw [hrun]
    exact IsTrans.trans _ _ _ hentered.probes
      (console_silent env hentered ⟨hskip, hserved, htype⟩ hrelayed huntranslated)
  · rw [lanPlayPcapHandler_eq, if_neg hskip]
    have hserved' : ¬ Served env.options (w.enterWifi frame).lp frame := hserved
    have hrest : Emits (fun i => i.iface = .wifi) (w.enterWifi frame)
        (after (wifiInput env mac frame (w.enterWifi frame))) := wifiInput_unserved hserved'
    exact IsTrans.trans _ _ _ (Quiet.quiet rfl rfl) hrest

section Calm

variable {env : Env} {w : World} (calm : Calm env)
include calm

/-- In a calm environment a packet that can be relayed is. -/
theorem Relayed.leaves (h : Relayed env.options mac w.lp frame) :
    ∃ frames, Overlays frames w (after (lanPlayPcapHandler env mac frame w)) ∧
      Carries w.lp (outgoing w.lp frame) frames := by
  obtain ⟨hfrom, hpacket, hdst, hunreachable, hpossible⟩ := h
  have hwell := hfrom.wellFormed
  obtain ⟨w', hentered, hrun⟩ := handler_served hfrom.1 hfrom.2.1
  have hforward : Forwardable w'.lp frame :=
    ⟨(hentered.forOverlay hwell).mpr ⟨hpacket, hdst⟩, hunreachable, hwell.rewritable hpacket⟩
  have hforward' : Forwardable (w'.setMac mac).lp frame := hforward
  have hready : EndpointReady env (w'.setMac mac) frame :=
    calm.toWilling.endpointReady (hentered.endpointPossible.mpr hpossible)
  obtain ⟨frames, hframes⟩ := calm.forwardedFrames (w := w'.setMac mac) frame
  have hrelay := relay_forwards hforward' hready
  simp only [hframes] at hrelay
  obtain ⟨w'', hok, hsent⟩ := hrelay
  rw [hrun, serveConsole_forward hwell.1 hforward, hok, after_discard, after_ok]
  refine ⟨_, hentered.quiet.trans ⟨frames, hsent, rfl⟩, ?_⟩
  have hcarries := overlayFrames_carries hframes
  have hsame : outgoing (w'.setMac mac).lp frame = outgoing w.lp frame :=
    outgoing_congr hentered.config frame
  rw [hsame] at hcarries
  exact hcarries.congr hentered.config

/-- So is one that leaves as it came. -/
theorem Untranslated.leaves (h : Untranslated env.options mac w.lp frame) :
    ∃ frames, Overlays frames w (after (lanPlayPcapHandler env mac frame w)) ∧
      Carries w.lp (packetOf frame) frames := by
  obtain ⟨hfrom, hmax, hmtu, hgw, hnin, hsub, hzerotier⟩ := h
  have hwell := hfrom.wellFormed
  obtain ⟨w', hentered, hrun⟩ := handler_served hfrom.1 hfrom.2.1
  have hfor : ¬ ForOverlay w'.lp frame := by
    rw [hentered.forOverlay hwell]
    rintro ⟨_, hdst⟩
    exact hdst.elim hnin hzerotier
  have hgw' : Frame.ipDst frame ≠ w'.lp.packetCtx.ip := by
    rw [show w'.lp.packetCtx.ip = _ from congrArg Config.gatewayIp hentered.config]
    exact hgw
  have hsub' : isSubnet (Frame.ipDst frame) w'.lp.packetCtx.subnetNet
      w'.lp.packetCtx.subnetMask = true := by
    rw [show w'.lp.packetCtx.subnetNet = _ from congrArg Config.subnetNet hentered.config,
      show w'.lp.packetCtx.subnetMask = _ from congrArg Config.subnetMask hentered.config]
    exact hsub
  let learned := ((w'.setMac mac).download frame).learnArp env .packetCtx (Frame.etherSrc frame)
    (Frame.ipSrc frame)
  obtain ⟨_, hmin, _, hheader, htotal, hin⟩ := hwell
  have hsend : (rawPacket frame).Sendable := ⟨by simp only [rawPacket]; omega, hmtu⟩
  have hinside : (rawPacket frame).Inside := Or.inr (by simp only [rawPacket]; omega)
  rw [hrun, serveConsole_gateway hfrom.2.2 hmin hfor,
    getPacket_ipv4 hfrom.2.2 hmin hmax fun hown => hfrom.1 (Or.inr hown), after_discard,
    @dispatchIpv4_subnet env frame (Frame.etherDst frame) learned hentered.wifi hgw' hnin hsub']
  obtain ⟨frames, hover, hcarries⟩ := calm.unicast_overlays (Frame.ipDst frame) learned hsend hinside
  exact ⟨frames, hentered.quiet.trans hover, hcarries.congr hentered.config⟩

end Calm

end Wifi

end Grid0Relay
