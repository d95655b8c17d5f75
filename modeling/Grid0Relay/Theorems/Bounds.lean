import Grid0Relay.Logic.Environments
import Grid0Relay.Logic.Safety

/-!
# Bounds of frame handling

Neither handler stays inside its buffers for every frame. What the relay functions
decline still reaches `process_arp`, `process_ipv4` and `process_icmp`, which trust
the lengths in the headers; on Wi-Fi `learn_local_switch` has checked most of them,
on ZeroTier nothing has. The two conditions below are exact: over all environments
the handlers are safe on the frames that meet them and on no others. The diagnostics
check each length before they use it, and read inside every frame.
-/

namespace Grid0Relay

open Lib Lib.Exec

/-! ## ZeroTier -/

/-- What `process_ipv4` needs of a ZeroTier frame, branch by branch. -/
def ZerotierIpv4Fits (mac : Mac) (lp : LanPlay) (frame : Bytes) : Prop :=
  if Frame.ipDst frame = lp.packetCtx.ip then
    Frame.ipProtocol frame = ipv4ProtocolIcmp → IcmpFits frame
  else if isNintendoLanBroadcast (Frame.ipDst frame) then EtherFits frame
  else if isSubnet (Frame.ipDst frame) lp.packetCtx.subnetNet lp.packetCtx.subnetMask then
    if isBroadcast (Frame.ipDst frame) lp.packetCtx.subnetNet lp.packetCtx.subnetMask then
      EtherFits frame
    else (Listed lp frame → EtherFits frame) ∧
      ((rawPacket frame).Sendable → (rawPacket frame).Inside)
  else mac = Frame.etherDst frame → ProxyFits frame

/-- A ZeroTier frame is delivered, or is long enough for the gateway. -/
def ZerotierFits (mac : Mac) (lp : LanPlay) (frame : Bytes) : Prop :=
  LeftToGateway mac lp frame →
    (Frame.etherType frame = etherTypeArp → 42 ≤ frame.length) ∧
    (Frame.etherType frame = etherTypeIpv4 → 34 ≤ frame.length ∧ ZerotierIpv4Fits mac lp frame)

/-- The branches of `process_ipv4` in one environment. -/
theorem AtDispatch.safe_iff {env : Env} {mac : Mac} {frame : Bytes} {w d : World}
    (h : AtDispatch env mac frame w d) (hmin : 34 ≤ frame.length) (hmax : frame.length < 65536) :
    Safe (dispatchIpv4 env frame (ipv4Of frame) (Frame.etherDst frame) d) ↔
      if Frame.ipDst frame = w.lp.packetCtx.ip then
        Frame.ipProtocol frame = ipv4ProtocolIcmp → Safe (processIcmp env frame (ipv4Of frame) d)
      else if isNintendoLanBroadcast (Frame.ipDst frame) then EtherFits frame
      else if isSubnet (Frame.ipDst frame) w.lp.packetCtx.subnetNet w.lp.packetCtx.subnetMask then
        if isBroadcast (Frame.ipDst frame) w.lp.packetCtx.subnetNet w.lp.packetCtx.subnetMask then
          EtherFits frame
        else Safe (forwardFromZerotier env (Frame.ipDst frame) (rawPacket frame) d)
      else mac = Frame.etherDst frame → ProxyFits frame := by
  rw [h.dispatch_eq]
  split
  · split
    · rename_i hicmp
      exact ⟨fun h _ => h, fun h => h hicmp⟩
    · rename_i hicmp
      exact iff_of_true (safe_ok _ _) fun h => absurd h hicmp
  split
  · exact safe_sendEther_one _ _ _ _ _
  split
  · split
    · exact safe_sendEther_one _ _ _ _ _
    · exact Iff.rfl
  split
  · rename_i hmac
    rw [Safe, allows_bind_returns fun _ => returns_pure 0]
    exact (safe_gatewayOnPacket env d hmin hmax).trans ⟨fun h _ => h, fun h => h hmac⟩
  · rename_i hmac
    exact iff_of_true (safe_ok _ _) fun h => absurd h hmac

/-- A unicast packet of `--subnet`, in one environment. -/
theorem AtDispatch.safe_forward {env : Env} {mac : Mac} {frame : Bytes} {w d : World}
    (h : AtDispatch env mac frame w d) (hlisted : Listed w.lp frame → EtherFits frame)
    (hsend : (rawPacket frame).Sendable → (rawPacket frame).Inside) :
    Safe (forwardFromZerotier env (Frame.ipDst frame) (rawPacket frame) d) := by
  cases hfound : d.lp.packetCtx.arpList.lookup (Frame.ipDst frame) (env.clock d.readings) with
  | none =>
    rw [forwardFromZerotier_unknown hfound]
    exact safe_lanPlaySendZerotierIpv4 env _ hsend _
  | some item =>
    obtain ⟨dst, d', _, hrun, -⟩ := @forwardFromZerotier_known env (Frame.ipDst frame) (rawPacket frame) d item
      hfound
    have hin : Listed w.lp frame :=
      ⟨_, _, by rw [← h.arpList, hfound]; rfl⟩
    rw [hrun]
    exact (safe_sendEther_one _ _ _ _ _).mpr (hlisted hin)

/-- A frame that meets the condition is safe in every environment. -/
theorem ZerotierFits.safe {mac : Mac} {frame : Bytes} {w : World} (h : ZerotierFits mac w.lp frame)
    (env : Env) : Safe (lanPlayZerotierPcapHandler env mac frame w) := by
  by_cases hleft : LeftToGateway mac w.lp frame
  swap
  · obtain ⟨w', hrun, -⟩ := @zerotierHandler_kept env mac frame w hleft
    rw [hrun]
    exact safe_ok _ _
  obtain ⟨harp, hipv4⟩ := h hleft
  by_cases hip : Frame.etherType frame = etherTypeIpv4
  · obtain ⟨hmin, hfits⟩ := hipv4 hip
    obtain ⟨d, hd, hrun⟩ := @zerotierHandler_ipv4 env mac frame w hleft hip hmin
    rw [hrun, Safe, allows_leaving]
    refine (hd.safe_iff hmin hleft.2.1).mpr ?_
    unfold ZerotierIpv4Fits at hfits
    split at hfits
    · rename_i hgw
      rw [if_pos hgw]
      refine fun hicmp => (safe_processIcmp env frame d).mpr ?_
      obtain ⟨hcopies, hroom⟩ := (icmpFits_iff frame).mp (hfits hicmp)
      exact ⟨hcopies, fun _ => hroom⟩
    · rename_i hgw
      rw [if_neg hgw]
      split at hfits
      · rename_i hnin
        rw [if_pos hnin]
        exact hfits
      · rename_i hnin
        rw [if_neg hnin]
        split at hfits
        · rename_i hsub
          rw [if_pos hsub]
          split at hfits
          · rename_i hall
            rw [if_pos hall]
            exact hfits
          · rename_i hone
            rw [if_neg hone]
            exact hd.safe_forward hfits.1 hfits.2
        · rename_i hsub
          rw [if_neg hsub]
          exact hfits
  · obtain ⟨warned, hrun⟩ := @zerotierHandler_left env mac frame w hleft
    rw [hrun, Safe, allows_leaving, processEther_eq env frame _ hleft.length.1, if_neg hip]
    split
    · exact safe_ok _ _
    split
    · rename_i htype
      rw [processArp_eq env frame _ (harp htype)]
      split
      · exact (returns_dispatchArp env _).safe _
      · exact safe_ok _ _
    · exact safe_ok _ _

/-- With the clock standing late enough the gateway knows the sender it has just
stored. -/
theorem exists_sender_known {w : World} (hconfig : Configured w.lp.config) (options : Options)
    (mac : Mac) (frame : Bytes) : ∃ env : Env, env.options = options ∧
      ∀ d, AtDispatch env mac frame w d →
        (d.lp.packetCtx.arpList.lookup (Frame.ipSrc frame) (env.clock d.readings)).isSome := by
  obtain ⟨late, hlate⟩ := exists_takes w.lp.packetCtx.arpList
  have httl : w.lp.packetCtx.arpTtl = 30 := hconfig.arpTtl
  refine ⟨clockEnv options fun _ => late, rfl, fun d hd => ?_⟩
  rw [hd.arpList, cacheWith, httl]
  exact ArpTable.lookup_set (hlate _) (by decide) _

section Zerotier

variable {options : Options} {mac : Mac} {frame : Bytes} {w : World}
  (hsafe : ∀ env : Env, env.options = options → Safe (lanPlayZerotierPcapHandler env mac frame w))
  (hleft : LeftToGateway mac w.lp frame)
include hsafe hleft

/-- A safe ARP frame is whole. -/
theorem arp_whole (htype : Frame.etherType frame = etherTypeArp) : 42 ≤ frame.length := by
  by_contra hshort
  obtain ⟨warned, hrun⟩ := @zerotierHandler_left (clockEnv options fun _ => 0) mac frame w hleft
  have hthis := hsafe (clockEnv options fun _ => 0) rfl
  have hsrc : Frame.etherSrc frame ≠
      (w.atGateway (clockEnv options fun _ => 0) mac frame warned).lp.packetCtx.mac :=
    fun hown => hleft.1 (Or.inr hown)
  rw [hrun, Safe, allows_leaving, processEther_eq _ frame _ hleft.length.1, if_neg hsrc,
    if_pos htype, processArp_short (by omega)] at hthis
  exact not_safe (by decide) _ hthis

/-- A safe IPv4 frame has a header. -/
theorem ipv4_whole (htype : Frame.etherType frame = etherTypeIpv4) : 34 ≤ frame.length := by
  by_contra hshort
  obtain ⟨warned, hrun⟩ := @zerotierHandler_left (clockEnv options fun _ => 0) mac frame w hleft
  have hthis := hsafe (clockEnv options fun _ => 0) rfl
  have hsrc : Frame.etherSrc frame ≠
      (w.atGateway (clockEnv options fun _ => 0) mac frame warned).lp.packetCtx.mac :=
    fun hown => hleft.1 (Or.inr hown)
  have harp : Frame.etherType frame ≠ etherTypeArp :=
    fun harp => etherTypeIpv4_ne_arp (htype.symm.trans harp)
  rw [hrun, Safe, allows_leaving, processEther_eq _ frame _ hleft.length.1, if_neg hsrc,
    if_neg harp, if_pos htype, processIpv4_short (by omega)] at hthis
  exact not_safe (by decide) _ hthis

/-- The branches of `process_ipv4` on a safe frame, in an environment of choice. -/
theorem branches_safe (htype : Frame.etherType frame = etherTypeIpv4) {env : Env}
    (henv : env.options = options) :
    ∃ d, AtDispatch env mac frame w d ∧
      Safe (dispatchIpv4 env frame (ipv4Of frame) (Frame.etherDst frame) d) := by
  have hmin := ipv4_whole hsafe hleft htype
  obtain ⟨d, hd, hrun⟩ := @zerotierHandler_ipv4 env mac frame w hleft htype hmin
  have hthis := hsafe env henv
  rw [hrun, Safe, allows_leaving] at hthis
  exact ⟨d, hd, hthis⟩

omit hleft in
/-- A unicast packet that is safe on both ways out fits both. -/
theorem unicast_fits (hunicast : SubnetUnicast mac w.lp frame) :
    (Listed w.lp frame → EtherFits frame) ∧
      ((rawPacket frame).Sendable → (rawPacket frame).Inside) := by
  constructor
  · intro hlisted
    obtain ⟨env, d, dst, _, henv, -, -, hrun⟩ := hunicast.exists_local hlisted options
    have hthis := hsafe env henv
    rw [hrun, Safe, allows_leaving] at hthis
    exact (safe_sendEther_one _ _ _ _ _).mp hthis
  · intro hsend
    obtain ⟨env, d, _, henv, -, hrun⟩ := hunicast.exists_reflected hsend options
    have hthis := hsafe env henv
    by_contra hout
    rw [hrun, Safe, allows_leaving, lanPlaySendZerotierIpv4Broadcast_eq, if_pos hsend,
      if_neg hout] at hthis
    exact not_safe (by decide) _ hthis

theorem zerotierIpv4_fits (hconfig : Configured w.lp.config)
    (htype : Frame.etherType frame = etherTypeIpv4) : ZerotierIpv4Fits mac w.lp frame := by
  have hmin := ipv4_whole hsafe hleft htype
  have hmax := hleft.2.1
  -- every branch but two is safe or not whatever the environment
  obtain ⟨d, hd, hcalm⟩ := branches_safe hsafe hleft htype
    (show (clockEnv options fun _ => 0).options = options from rfl)
  rw [hd.safe_iff hmin hmax] at hcalm
  unfold ZerotierIpv4Fits
  split
  · rename_i hgw
    intro hicmp
    obtain ⟨env, henv, hknown⟩ := exists_sender_known hconfig options mac frame
    obtain ⟨d, hd, hthis⟩ := branches_safe hsafe hleft htype henv
    rw [hd.safe_iff hmin hmax, if_pos hgw] at hthis
    obtain ⟨hcopies, hroom⟩ := (safe_processIcmp env frame d).mp (hthis hicmp)
    exact (icmpFits_iff frame).mpr ⟨hcopies, hroom (hknown d hd)⟩
  · rename_i hgw
    rw [if_neg hgw] at hcalm
    split
    · rename_i hnin
      rwa [if_pos hnin] at hcalm
    · rename_i hnin
      rw [if_neg hnin] at hcalm
      split
      · rename_i hsub
        rw [if_pos hsub] at hcalm
        split
        · rename_i hall
          rwa [if_pos hall] at hcalm
        · rename_i hone
          exact unicast_fits hsafe ⟨⟨hleft, htype, hmin, hgw, hnin⟩, hsub, hone⟩
      · rename_i hsub
        rwa [if_neg hsub] at hcalm

end Zerotier

theorem zerotier_safe_iff {w : World} (hconfig : Configured w.lp.config) (options : Options)
    (mac : Mac) (frame : Bytes) :
    (∀ env : Env, env.options = options → Safe (lanPlayZerotierPcapHandler env mac frame w)) ↔
      ZerotierFits mac w.lp frame := by
  refine ⟨fun hsafe hleft => ⟨arp_whole hsafe hleft, fun htype => ?_⟩, fun h env _ => h.safe env⟩
  exact ⟨ipv4_whole hsafe hleft htype, zerotierIpv4_fits hsafe hleft hconfig htype⟩

/-! ## Wi-Fi -/

/-- The relay function takes the packet for one of the overlay. -/
def TakenByRelay (lp : LanPlay) (frame : Bytes) : Prop :=
  HasPacket frame ∧
    (isNintendoLanBroadcast (Frame.ipDst frame) ∨ isZerotierDestination lp (Frame.ipDst frame))
deriving Decidable

/-- What `process_ipv4` needs of a frame of the console. -/
def WifiIpv4Fits (mac : Mac) (lp : LanPlay) (frame : Bytes) : Prop :=
  if Frame.ipDst frame = lp.packetCtx.ip then
    Frame.ipProtocol frame = ipv4ProtocolIcmp → IcmpFits frame
  else if isNintendoLanBroadcast (Frame.ipDst frame) ∨
      isSubnet (Frame.ipDst frame) lp.packetCtx.subnetNet lp.packetCtx.subnetMask then True
  else mac = Frame.etherDst frame → ProxyFits frame

/-- A Wi-Fi frame the DHCP server can parse and the gateway can serve. -/
def WifiFits (options : Options) (mac : Mac) (lp : LanPlay) (frame : Bytes) : Prop :=
  (¬ Skipped mac frame → options.dhcpServer ∧ lp.wifiSubnetKnown → DhcpHeader frame →
    WalkInside frame) ∧
  (FromConsole options mac lp frame → frame.length < 65536 → ¬ TakenByRelay lp frame →
    WifiIpv4Fits mac lp frame)

/-- The packet of a well-formed frame is inside it. -/
theorem WellFormedIpv4.inside {frame : Bytes} (h : WellFormedIpv4 frame) :
    (rawPacket frame).Inside := by
  obtain ⟨_, hlen, _, _, _, htotal⟩ := h
  exact Or.inr (by simp only [rawPacket]; omega)

/-- The branches of `process_ipv4` for a frame of the console, in one environment. -/
theorem dispatch_wifi_safe_iff {env : Env} {frame : Bytes} {d : World}
    (hwifi : d.lp.ingressZerotier = false) (hwell : WellFormedIpv4 frame)
    (hmax : frame.length < 65536) :
    Safe (dispatchIpv4 env frame (ipv4Of frame) (Frame.etherDst frame) d) ↔
      if Frame.ipDst frame = d.lp.packetCtx.ip then
        Frame.ipProtocol frame = ipv4ProtocolIcmp → Safe (processIcmp env frame (ipv4Of frame) d)
      else if isNintendoLanBroadcast (Frame.ipDst frame) ∨
          isSubnet (Frame.ipDst frame) d.lp.packetCtx.subnetNet d.lp.packetCtx.subnetMask then True
      else d.lp.packetCtx.mac = Frame.etherDst frame → ProxyFits frame := by
  have hdst : (ipv4Of frame).dst = Frame.ipDst frame := rfl
  have hproto : (ipv4Of frame).protocol = Frame.ipProtocol frame := rfl
  have hinside := hwell.inside
  by_cases hgw : Frame.ipDst frame = d.lp.packetCtx.ip
  · simp only [dispatchIpv4, bind_apply, getLp_apply, hdst, hproto, if_pos hgw, ite_run, pure_apply]
    split
    · rename_i hicmp
      exact ⟨fun h _ => h, fun h => h hicmp⟩
    · rename_i hicmp
      exact iff_of_true (safe_ok _ _) fun h => absurd h hicmp
  rw [if_neg hgw]
  by_cases hnin : isNintendoLanBroadcast (Frame.ipDst frame) = true
  · simp only [dispatchIpv4, bind_apply, getLp_apply, hwifi, hdst, if_neg hgw, if_pos hnin,
      Bool.false_eq_true, if_false, if_pos (Or.inl hnin : isNintendoLanBroadcast
        (Frame.ipDst frame) = true ∨ _)]
    exact iff_of_true (safe_lanPlaySendZerotierIpv4Broadcast env (fun _ => hinside) d) trivial
  by_cases hsub : isSubnet (Frame.ipDst frame) d.lp.packetCtx.subnetNet
      d.lp.packetCtx.subnetMask = true
  · rw [dispatchIpv4_subnet hwifi hgw hnin hsub, if_pos (Or.inr hsub)]
    exact iff_of_true (safe_lanPlaySendZerotierIpv4 env _ (fun _ => hinside) d) trivial
  · rw [if_neg (not_or.mpr ⟨hnin, hsub⟩)]
    simp only [dispatchIpv4, bind_apply, getLp_apply, hdst, if_neg hgw, if_neg hnin, if_neg hsub,
      ite_run]
    split
    · rename_i hmac
      refine (allows_bind_returns (fun _ => returns_pure 0)).trans ?_
      exact (safe_gatewayOnPacket env d hwell.2.1 hmax).trans ⟨fun h _ => h, fun h => h hmac⟩
    · rename_i hmac
      exact iff_of_true (safe_ok _ _) fun h => absurd h hmac

/-- What the relay function takes it sends, or an entry expires. -/
theorem safe_serveConsole_overlay (env : Env) (mac : Mac) {frame : Bytes} {w : World}
    (hwell : WellFormedIpv4 frame) (h : ForOverlay w.lp frame) :
    Safe (serveConsole env mac frame w) := by
  have h' : ForOverlay (w.setMac mac).lp frame := h
  by_cases hunreachable : PortUnreachable frame
  · have hrelay : lanPlayRelayWifiIpv4 env frame (w.setMac mac) = .ok true (w.setMac mac) := by
      rw [lanPlayRelayWifiIpv4_eq, if_pos h', if_pos hunreachable]
    rw [serveConsole_ipv4 hwell.1 hwell.2.1, bind_ok hrelay]
    exact safe_ok _ _
  have hforward : Forwardable w.lp frame := ⟨h, hunreachable, hwell.rewritable h.2.1⟩
  have hforward' : Forwardable (w.setMac mac).lp frame := hforward
  obtain ⟨warned, ret, guard, asked, -, hrun⟩ := forward_reserved env hforward'
  rw [serveConsole_forward hwell.1 hforward, safe_discard, hforward'.relay_eq, hrun]
  split
  · exact safe_ok _ _
  · rw [Safe, allows_bind_returns fun _ => returns_pure true]
    have hinside : (Payload.whole (outgoing (w.setMac mac).lp frame)).Inside :=
      Payload.inside_whole _
    unfold sendOverlay
    split
    · exact safe_lanPlaySendZerotierIpv4Broadcast env (fun _ => hinside) _
    · exact safe_lanPlaySendZerotierIpv4 env _ (fun _ => hinside) _

/-- The world in which `process_ipv4` looks at a frame of the console. -/
def World.atConsole (env : Env) (mac : Mac) (frame : Bytes) (w : World) : World :=
  ((w.setMac mac).download frame).learnArp env .packetCtx (Frame.etherSrc frame) (Frame.ipSrc frame)

/-- Serving an IPv4 frame of the console, in one environment. -/
theorem serveConsole_safe_iff {env : Env} {mac : Mac} {frame : Bytes} {w w' : World}
    (hentered : Entered frame w w') (hskip : ¬ Skipped mac frame) (hwell : WellFormedIpv4 frame) :
    Safe (serveConsole env mac frame w') ↔
      (frame.length < 65536 → ¬ TakenByRelay w.lp frame →
        if Frame.ipDst frame = w.lp.packetCtx.ip then
          Frame.ipProtocol frame = ipv4ProtocolIcmp →
            Safe (processIcmp env frame (ipv4Of frame) (w'.atConsole env mac frame))
        else if isNintendoLanBroadcast (Frame.ipDst frame) ∨
            isSubnet (Frame.ipDst frame) w.lp.packetCtx.subnetNet w.lp.packetCtx.subnetMask then
          True
        else mac = Frame.etherDst frame → ProxyFits frame) := by
  have htaken : ForOverlay w'.lp frame ↔ TakenByRelay w.lp frame := hentered.forOverlay hwell
  by_cases hfor : TakenByRelay w.lp frame
  · exact iff_of_true (safe_serveConsole_overlay env mac hwell (htaken.mpr hfor))
      fun _ hno => absurd hfor hno
  rw [serveConsole_gateway hwell.1 hwell.2.1 fun h => hfor (htaken.mp h)]
  by_cases hmax : frame.length < 65536
  swap
  · rw [getPacket_long (by omega)]
    exact iff_of_true (safe_ok _ _) fun h => absurd h hmax
  have hsrc : Frame.etherSrc frame ≠ (w'.setMac mac).lp.packetCtx.mac :=
    fun hown => hskip (Or.inr hown)
  have hwifi : (w'.atConsole env mac frame).lp.ingressZerotier = false := hentered.wifi
  have hgw : (w'.atConsole env mac frame).lp.packetCtx.ip = w.lp.packetCtx.ip :=
    congrArg Config.gatewayIp hentered.config
  have hnet : (w'.atConsole env mac frame).lp.packetCtx.subnetNet = w.lp.packetCtx.subnetNet :=
    congrArg Config.subnetNet hentered.config
  have hmask : (w'.atConsole env mac frame).lp.packetCtx.subnetMask = w.lp.packetCtx.subnetMask :=
    congrArg Config.subnetMask hentered.config
  have hmac : (w'.atConsole env mac frame).lp.packetCtx.mac = mac := rfl
  rw [getPacket_ipv4 hwell.1 hwell.2.1 hmax hsrc, safe_discard]
  refine (dispatch_wifi_safe_iff hwifi hwell hmax).trans ?_
  rw [hgw, hnet, hmask, hmac]
  exact ⟨fun h _ _ => h, fun h => h hmax hfor⟩

/-- Serving an ARP frame of the console. -/
theorem safe_serveConsole_arp (env : Env) (mac : Mac) {frame : Bytes} (h : WellFormedArp frame)
    (w : World) : Safe (serveConsole env mac frame w) := by
  obtain ⟨htype, hlen, -⟩ := h
  rw [serveConsole_arp htype]
  by_cases hmax : frame.length < 65536
  swap
  · rw [getPacket_long (by omega)]
    exact safe_ok _ _
  rw [getPacket_eq hmax, safe_discard, processEther_eq env frame _ (by omega), if_pos htype,
    processArp_eq env frame _ hlen]
  split
  · exact safe_ok _ _
  split
  · exact (returns_dispatchArp env _).safe _
  · exact safe_ok _ _

/-- The DHCP server reads only bytes of the frame. -/
def DhcpFits (options : Options) (lp : LanPlay) (frame : Bytes) : Prop :=
  options.dhcpServer ∧ lp.wifiSubnetKnown → DhcpHeader frame → WalkInside frame

/-- A frame without a message was walked to its end. -/
theorem DhcpIgnores.fits {options : Options} {lp : LanPlay} {frame : Bytes}
    (h : DhcpIgnores options lp frame) : DhcpFits options lp frame := by
  intro hon hheader
  have hnone := h.resolve_left (not_not_intro hon) World.boot
  by_contra hwalk
  rw [dhcpParse_eq, if_pos hheader, dhcpWalk, dhcpOptions_outside hwalk] at hnone
  cases hnone

/-- A frame the console is not served for can only fail in the DHCP server. -/
theorem unserved_safe_iff {env : Env} {mac : Mac} {frame : Bytes} {w : World}
    (hskip : ¬ Skipped mac frame) (h : ¬ Served env.options w.lp frame) :
    Safe (lanPlayPcapHandler env mac frame w) ↔ DhcpFits env.options w.lp frame := by
  have h' : ¬ Served env.options (w.enterWifi frame).lp frame := h
  have hdhcp := safe_dhcpServerConsume env frame (w.enterWifi frame)
  rw [lanPlayPcapHandler_eq, if_neg hskip]
  by_cases hreply : DeliveryReply (w.enterWifi frame).lp frame
  · simp only [wifiInput, bind_apply, consumeWifiDeliveryReply_eq, if_pos hreply, if_true]
    -- a reply is an ICMP message
    refine iff_of_true (safe_ok _ _) fun _ hheader => ?_
    exact absurd (hheader.2.2.1.2.2.2.2.symm.trans hreply.2.2.2.1.2.2.2.2.1) (by decide)
  simp only [wifiInput, bind_apply, consumeWifiDeliveryReply_eq, if_neg hreply,
    Bool.false_eq_true, if_false]
  refine Iff.trans ?_ hdhcp
  cases hconsume : dhcpServerConsume env frame (w.enterWifi frame) with
  | error e v => simp [Safe]
  | ok consumed v =>
    refine iff_of_true ?_ (safe_ok _ _)
    cases consumed with
    | true => exact safe_ok _ _
    | false =>
      obtain ⟨rfl, hignores⟩ := dhcpServerConsume_false hconsume
      obtain ⟨learned, v, hrun, hlearned⟩ :=
        learnLocalSwitch_learned env frame (w.enterWifi frame)
      have hmiss : learned = false := by
        cases hlearned with
        | rejected no => rfl
        | conflict acc seen same _ _ | again acc seen same _ =>
          exact absurd ⟨hreply, hignores, acc, fun _ => same⟩ h'
        | adopted acc new =>
          refine absurd ⟨hreply, hignores, acc, fun seen => ?_⟩ h'
          exact (new.resolve_left (not_not_intro seen)).1
      simp only [Bool.false_eq_true, if_false, bind_apply, hrun, hmiss, Bool.not_false, if_true]
      exact safe_ok _ _

/-- A frame that meets the condition is safe in every environment. -/
theorem WifiFits.safe {mac : Mac} {frame : Bytes} {w : World} {env : Env}
    (h : WifiFits env.options mac w.lp frame) : Safe (lanPlayPcapHandler env mac frame w) := by
  by_cases hskip : Skipped mac frame
  · rw [lanPlayPcapHandler_eq, if_pos hskip]
    exact safe_ok _ _
  by_cases hserved : Served env.options w.lp frame
  swap
  · exact (unserved_safe_iff hskip hserved).mpr (h.1 hskip)
  obtain ⟨w', hentered, hrun⟩ := @handler_served env mac frame w hskip hserved
  rw [hrun]
  rcases hserved.2.2.1.1.2.2 with harp | hwell
  · exact safe_serveConsole_arp env mac harp w'
  · refine (serveConsole_safe_iff hentered hskip hwell).mpr fun hmax htaken => ?_
    have hfits := h.2 ⟨hskip, hserved, hwell.1⟩ hmax htaken
    unfold WifiIpv4Fits at hfits
    split at hfits
    · rename_i hgw
      rw [if_pos hgw]
      intro hicmp
      obtain ⟨hcopies, hroom⟩ := (icmpFits_iff frame).mp (hfits hicmp)
      exact (safe_processIcmp env frame _).mpr ⟨hcopies, fun _ => hroom⟩
    · rename_i hgw
      rw [if_neg hgw]
      exact hfits

/-- The cache knows the console once its packet is stored, if the clock stands late
enough. -/
theorem Entered.sender_known {options : Options} {mac : Mac} {frame : Bytes} {w w' : World}
    {late : Nat} (hentered : Entered frame w w') (hconfig : Configured w.lp.config)
    (hsender : senderIp frame = Frame.ipSrc frame)
    (hroom : w.lp.packetCtx.arpList.Takes (senderIp frame) late) :
    ((w'.atConsole (clockEnv options fun _ => late) mac frame).lp.packetCtx.arpList.lookup
      (Frame.ipSrc frame) late).isSome := by
  have httl : w'.lp.packetCtx.arpTtl = 30 :=
    (congrArg Config.arpTtl hentered.config).trans hconfig.arpTtl
  have hpos : 0 < ((w'.setMac mac).download frame).lp.arpTtl .packetCtx := by
    show 0 < w'.lp.packetCtx.arpTtl
    rw [httl]
    decide
  have htakes := hentered.room late hroom
  rw [hsender] at htakes
  exact ArpTable.lookup_set htakes hpos _

theorem wifi_safe_iff {w : World} (hconfig : Configured w.lp.config) (options : Options)
    (mac : Mac) (frame : Bytes) :
    (∀ env : Env, env.options = options → Safe (lanPlayPcapHandler env mac frame w)) ↔
      WifiFits options mac w.lp frame := by
  refine ⟨fun hsafe => ⟨fun hskip => ?_, ?_⟩, fun h env henv => WifiFits.safe (henv ▸ h)⟩
  · by_cases hserved : Served options w.lp frame
    · exact hserved.2.1.fits
    · exact (@unserved_safe_iff (clockEnv options fun _ => 0) mac frame w hskip hserved).mp
        (hsafe _ rfl)
  · rintro hfrom hmax htaken
    have hwell := hfrom.wellFormed
    obtain ⟨hskip, hserved, -⟩ := hfrom
    have hsender : senderIp frame = Frame.ipSrc frame :=
      if_neg fun harp => etherTypeIpv4_ne_arp (hwell.1.symm.trans harp)
    obtain ⟨late, hlate⟩ := exists_takes w.lp.packetCtx.arpList
    obtain ⟨w', hentered, hrun⟩ :=
      @handler_served (clockEnv options fun _ => late) mac frame w hskip hserved
    have hthis := hsafe (clockEnv options fun _ => late) rfl
    rw [hrun] at hthis
    have hbranches := (serveConsole_safe_iff hentered hskip hwell).mp hthis hmax htaken
    unfold WifiIpv4Fits
    split
    · rename_i hgw
      rw [if_pos hgw] at hbranches
      intro hicmp
      obtain ⟨hcopies, hroom⟩ := (safe_processIcmp _ frame _).mp (hbranches hicmp)
      exact (icmpFits_iff frame).mpr
        ⟨hcopies, hroom (hentered.sender_known hconfig hsender (hlate _))⟩
    · rename_i hgw
      rwa [if_neg hgw] at hbranches

/-- **Bounds.** In a session, a frame is handled inside its buffers in every
environment exactly when it meets the condition of its side. -/
theorem frame_bounds (options : Options) (mac : Mac) (w : World) (frame : Bytes)
    (reachable : Reachable w) :
    ((∀ env : Env, env.options = options → Safe (lanPlayPcapHandler env mac frame w)) ↔
      WifiFits options mac w.lp frame) ∧
    ((∀ env : Env, env.options = options → Safe (lanPlayZerotierPcapHandler env mac frame w)) ↔
      ZerotierFits mac w.lp frame) := by
  have hconfig := Process.configured reachable rfl
  exact ⟨wifi_safe_iff hconfig options mac frame, zerotier_safe_iff hconfig options mac frame⟩

/-- The greeting of a console, from either side. -/
theorem frame_bounds_hello :
    Reachable consoleWorld ∧ ∀ env : Env, env.options = (calmEnv 1000).options →
      Safe (lanPlayPcapHandler env consoleWorld.lp.wifiMac helloFrame consoleWorld) ∧
      Safe (lanPlayZerotierPcapHandler env consoleWorld.lp.zerotierMac helloFrame consoleWorld) := by
  have hip : Frame.etherType helloFrame ≠ etherTypeIpv4 := by decide
  have hlen : 42 ≤ helloFrame.length := by decide
  have hwifi : WifiFits (calmEnv 1000).options consoleWorld.lp.wifiMac consoleWorld.lp
      helloFrame := by
    constructor
    · intro _ _ hheader
      exfalso
      exact hip hheader.2.1
    · intro hfrom
      exfalso
      exact hip hfrom.2.2
  have hzerotier : ZerotierFits consoleWorld.lp.zerotierMac consoleWorld.lp helloFrame :=
    fun _ => ⟨fun _ => hlen, fun htype => absurd htype hip⟩
  refine ⟨consoleWorld_reachable, fun env henv => ⟨?_, ?_⟩⟩
  · exact (frame_bounds (calmEnv 1000).options consoleWorld.lp.wifiMac consoleWorld helloFrame
      consoleWorld_reachable).1.mpr hwifi env henv
  · exact (frame_bounds (calmEnv 1000).options consoleWorld.lp.zerotierMac consoleWorld helloFrame
      consoleWorld_reachable).2.mpr hzerotier env henv

/-- The fault an execution ends with. -/
def faultOf {α : Type} : EStateM.Result Fault World α → Option Fault
  | .ok _ _ => none
  | .error e _ => some e

/-- An Ethernet header that announces ARP, and nothing behind it. -/
def bareArp : Bytes := etherHeader broadcastMac (mac6 0x02 0 0 0 0 0x66) etherTypeArp

/-- `process_arp` reads behind a captured frame of 14 bytes. -/
theorem bare_arp_read_outside :
    Reachable consoleWorld ∧ bareArp.length = 14 ∧
      faultOf (lanPlayZerotierPcapHandler (calmEnv 1000) consoleWorld.lp.zerotierMac bareArp
        consoleWorld) = some .readBounds :=
  ⟨consoleWorld_reachable, by decide +kernel, by decide +kernel⟩

/-! ## Diagnostics -/

/-- **Diagnostics.** Whatever the frame, `diagnostic_log_frame` reads inside it: no read
faults, with or without a capture file. -/
theorem diagnostics_read_inside (capturing : Bool) (env : Env) (packet : Bytes) (w : World) :
    diagnosticLogFrameCapturing capturing env packet packet.length w = .ok () w := by
  have hlog : diagnosticLogFrameLen env packet packet.length = pure () :=
    diagnosticLogFrame_eq env packet
  rw [diagnosticLogFrameCapturing, captureFrame_eq, pure_bind, hlog, pure_apply]

end Grid0Relay
