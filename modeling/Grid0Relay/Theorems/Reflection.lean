import Grid0Relay.Logic.Egress
import Grid0Relay.Logic.Environments

/-!
# What a ZeroTier frame makes the relay send

The relay function never sends to the overlay and drops what is for somebody else,
but what it declines still goes through `process_ipv4`. There a unicast packet of
`--subnet` that no local cache entry claims is sent back to the overlay, and other
packets can reach Wi-Fi. `Reflects` and `Escapes` are the frames for which some
environment makes this happen.
-/

namespace Grid0Relay

open Lib Lib.Exec

theorem none_overlay {w w' : World} (h : Overlays [] w w') :
    ∀ i ∈ newFrames w w', ¬ OverlayIpv4 i := by
  intro i hi
  simpa using List.filter_eq_nil_iff.mp h.newFrames i hi

/-! ## The frames -/

section Frames

variable (mac : Mac) (lp : LanPlay) (frame : Bytes)

/-- A packet that can go back to the overlay. -/
def Reflects : Prop :=
  SubnetUnicast mac lp frame ∧ (rawPacket frame).Sendable ∧ (rawPacket frame).Inside

/-- Addressed to nobody the relay answers for. -/
def Unaddressed : Prop :=
  Frame.ipDst frame ≠ lp.zerotierBroadcastIp ∧ Frame.ipDst frame ≠ lp.zerotierIp ∧
    Frame.ipDst frame ≠ lp.switchIp ∧ ¬ isNintendoLanBroadcast (Frame.ipDst frame) ∧
    ¬ isBroadcast (Frame.ipDst frame) lp.packetCtx.subnetNet lp.packetCtx.subnetMask ∧
    Frame.ipDst frame ≠ lp.packetCtx.ip

/-- A packet for somebody else that can make the relay send something. -/
def Escapes : Prop :=
  PastGateway mac lp frame ∧ Unaddressed lp frame ∧
    (ForSubnet lp frame ∧ (Listed lp frame ∨ (rawPacket frame).Sendable) ∨
      ¬ ForSubnet lp frame ∧ mac = Frame.etherDst frame ∧ ¬ ForProxy frame)

end Frames

section Handler

variable {env : Env} {mac : Mac} {frame : Bytes} {w d : World}

/-- Without a packet that fits the overlay, the branch sends none there. -/
theorem forward_overlays (h : ¬ ((rawPacket frame).Sendable ∧ (rawPacket frame).Inside)) :
    Overlays [] d (after (forwardFromZerotier env (Frame.ipDst frame) (rawPacket frame) d)) := by
  cases hknown : d.lp.packetCtx.arpList.lookup (Frame.ipDst frame) (env.clock d.readings) with
  | none =>
    rw [forwardFromZerotier_unknown hknown]
    have htick : Overlays [] d (d.tick env) := Overlays.of_sent rfl
    obtain ⟨frames, hover, hcase⟩ := unicast_overlays env (Frame.ipDst frame) (rawPacket frame)
      (d.tick env)
    rcases hcase with rfl | ⟨hsend, hin, _⟩
    · exact htick.trans hover
    · exact absurd ⟨hsend, hin⟩ h
  | some item =>
    obtain ⟨mac, d', frames, hrun, hsent, hwifi, -⟩ :=
      @forwardFromZerotier_known env (Frame.ipDst frame) (rawPacket frame) d item hknown
    rw [hrun]
    have hfirst : Emits (fun i => ¬ OverlayIpv4 i) d d' := by
      refine ⟨frames, hsent, fun i hi hover => ?_⟩
      exact absurd ((hwifi i hi).symm.trans hover.1) (by decide)
    exact (Overlays.of_emits hfirst).trans
      (overlays_of_steps (steps_sendEther env mac etherTypeIpv4 [rawPacket frame]) d')

/-- No branch but this one sends IPv4 to the overlay. -/
theorem dispatch_overlays (hd : AtDispatch env mac frame w d)
    (hpast : LeftToGateway mac w.lp frame) (htype : Frame.etherType frame = etherTypeIpv4)
    (hmin : 34 ≤ frame.length) (h : ¬ Reflects mac w.lp frame) :
    Overlays [] d
      (after (dispatchIpv4 env frame (ipv4Of frame) (Frame.etherDst frame) d)) := by
  rw [hd.dispatch_eq]
  split_ifs with hgw hicmp hnin hsub hall hmac
  · exact overlays_of_steps (steps_processIcmp env frame _) d
  · exact Overlays.of_sent rfl
  · exact overlays_of_steps (steps_sendEther env _ _ _) d
  · exact overlays_of_steps (steps_sendEther env _ _ _) d
  · exact forward_overlays fun hfits =>
      h ⟨⟨⟨hpast, htype, hmin, hgw, hnin⟩, hsub, hall⟩, hfits⟩
  · exact overlays_of_steps (steps_bind (steps_gatewayOnPacket env frame) fun _ => steps_pure _) d
  · exact Overlays.of_sent rfl

/-- Nothing leaves for a packet that cannot escape. -/
theorem dispatch_silent (hd : AtDispatch env mac frame w d)
    (hpast : LeftToGateway mac w.lp frame) (htype : Frame.etherType frame = etherTypeIpv4)
    (hmin : 34 ≤ frame.length) (hother : Unaddressed w.lp frame) (h : ¬ Escapes mac w.lp frame) :
    (after (dispatchIpv4 env frame (ipv4Of frame) (Frame.etherDst frame) d)).sent = d.sent := by
  obtain ⟨_, _, _, hnin, hall, hgw⟩ := id hother
  have hpast' : PastGateway mac w.lp frame := ⟨hpast, htype, hmin, hgw, hnin⟩
  rw [hd.dispatch_eq, if_neg hgw, if_neg hnin]
  by_cases hsub : isSubnet (Frame.ipDst frame) w.lp.packetCtx.subnetNet
      w.lp.packetCtx.subnetMask = true
  · have hno : ¬ (Listed w.lp frame ∨ (rawPacket frame).Sendable) :=
      fun hcan => h ⟨hpast', hother, Or.inl ⟨hsub, hcan⟩⟩
    have hknown : d.lp.packetCtx.arpList.lookup (Frame.ipDst frame) (env.clock d.readings) =
        none := by
      rw [hd.arpList, ← Option.not_isSome_iff_eq_none]
      exact fun hfound => hno (Or.inl ⟨_, _, hfound⟩)
    rw [if_pos hsub, if_neg hall, forwardFromZerotier_unknown hknown,
      lanPlaySendZerotierIpv4_refused fun hsend => hno (Or.inr hsend)]
    rfl
  · rw [if_neg hsub]
    by_cases hmac : mac = Frame.etherDst frame
    · have hproxy : ForProxy frame := by
        by_contra hno
        exact h ⟨hpast', hother, Or.inr ⟨hsub, hmac, hno⟩⟩
      have hrun := gatewayOnPacket_eq env frame d hmin hpast.length.2
      rw [if_pos hproxy] at hrun
      rw [if_pos hmac]
      split at hrun
      · rw [bind_ok hrun]
        rfl
      · rw [bind_error hrun]
        rfl
    · rw [if_neg hmac]
      rfl

/-- An ARP frame, or one `process_ipv4` cannot read, sends no IPv4 to the overlay. -/
theorem processEther_overlays (hlen : 14 ≤ frame.length)
    (h : ¬ (Frame.etherType frame = etherTypeIpv4 ∧ 34 ≤ frame.length)) :
    Overlays [] w (after (processEther env frame w)) ∧
      (Frame.etherType frame = etherTypeIpv4 →
        (after (processEther env frame w)).sent = w.sent) := by
  rw [processEther_eq env frame _ hlen]
  split_ifs with hown harp hip
  · exact ⟨Overlays.of_sent rfl, fun _ => rfl⟩
  · exact ⟨overlays_of_steps (steps_processArp env frame) w,
      fun hip => absurd (hip.symm.trans harp) etherTypeIpv4_ne_arp⟩
  · rw [processIpv4_short (Nat.not_le.mp fun hmin => h ⟨hip, hmin⟩)]
    exact ⟨Overlays.of_sent rfl, fun _ => rfl⟩
  · exact ⟨Overlays.of_sent rfl, fun _ => rfl⟩

/-- What the handler does to a frame that neither reflects nor escapes. -/
theorem handler_contained (env : Env) (mac : Mac) (frame : Bytes) (w : World)
    (hreflects : ¬ Reflects mac w.lp frame) (hescapes : ¬ Escapes mac w.lp frame) :
    (∀ i ∈ newFrames w (after (lanPlayZerotierPcapHandler env mac frame w)), ¬ OverlayIpv4 i) ∧
      (Frame.etherType frame = etherTypeIpv4 → Unaddressed w.lp frame →
        newFrames w (after (lanPlayZerotierPcapHandler env mac frame w)) = []) := by
  by_cases hleft : LeftToGateway mac w.lp frame
  · by_cases hip : Frame.etherType frame = etherTypeIpv4 ∧ 34 ≤ frame.length
    · obtain ⟨htype, hmin⟩ := hip
      obtain ⟨d, hd, hrun⟩ := @zerotierHandler_ipv4 env mac frame w hleft htype hmin
      refine ⟨none_overlay ?_, fun _ hother => newFrames_nil ?_⟩
      · rw [Overlays, hrun, sent_leaving, ← hd.sent]
        exact dispatch_overlays hd hleft htype hmin hreflects
      · rw [hrun, sent_leaving, dispatch_silent hd hleft htype hmin hother hescapes, hd.sent]
    · obtain ⟨warned, hrun⟩ := @zerotierHandler_left env mac frame w hleft
      obtain ⟨hnone, hsame⟩ := @processEther_overlays env frame (w.atGateway env mac frame warned)
        hleft.length.1 hip
      refine ⟨none_overlay ?_, fun htype _ => newFrames_nil ?_⟩
      · rw [Overlays, hrun, sent_leaving]
        exact hnone
      · rw [hrun, sent_leaving, hsame htype]
        rfl
  · obtain ⟨w', hrun, -, hcase⟩ := @zerotierHandler_kept env mac frame w hleft
    rw [hrun, after_ok]
    rcases hcase with hsent | ⟨hdeliver, hemit⟩
    · rw [newFrames_nil hsent]
      simp
    · refine ⟨none_overlay (Overlays.of_emits hemit), fun _ hother => ?_⟩
      rcases hdeliver.2.2.1 with hto | hto | hto
      · exact absurd hto hother.1
      · exact absurd hto hother.2.1
      · exact absurd hto hother.2.2.1

end Handler

section Sends

variable {mac : Mac} {frame : Bytes} {w : World}

theorem newFrames_ne_nil {w' : World} {i : Injection} {frames : List Injection}
    (h : w'.sent = w.sent ++ i :: frames) : newFrames w w' ≠ [] := by
  rw [newFrames_append h]
  exact List.cons_ne_nil _ _

/-- A packet that can go back does, in some environment. -/
theorem Reflects.sends (h : Reflects mac w.lp frame) (options : Options) :
    ∃ env : Env, env.options = options ∧
      ∃ i ∈ newFrames w (after (lanPlayZerotierPcapHandler env mac frame w)), OverlayIpv4 i := by
  obtain ⟨hunicast, hsend, hin⟩ := h
  obtain ⟨env, d, arp, hoptions, hsent, hrun⟩ := hunicast.exists_reflected hsend options
  let back : Injection := ⟨.zerotier, zerotierFrame d.lp broadcastMac (rawPacket frame).bytes⟩
  refine ⟨env, hoptions, back, ?_, overlayIpv4_zerotierFrame _ _ _⟩
  have hlog : (after (lanPlayZerotierPcapHandler env mac frame w)).sent =
      w.sent ++ [⟨.zerotier, arp⟩, back] := by
    rw [hrun, sent_leaving, lanPlaySendZerotierIpv4Broadcast_eq, if_pos hsend, if_pos hin, after_ok,
      World.sendZerotier, hsent, List.append_assoc]
    rfl
  rw [newFrames_append hlog]
  simp

/-- A packet for somebody else that can make the relay send something does. -/
theorem Escapes.sends (h : Escapes mac w.lp frame) (options : Options) :
    ∃ env : Env, env.options = options ∧
      newFrames w (after (lanPlayZerotierPcapHandler env mac frame w)) ≠ [] := by
  obtain ⟨hpast, hother, hcase⟩ := h
  have hgrows : ∀ {α : Type} {x : RelayM α}, Steps (Emits fun _ => True) x → ∀ d,
      ∃ more, (after (x d)).sent = d.sent ++ more := by
    intro α x hx d
    obtain ⟨more, hmore, -⟩ := hx d
    exact ⟨more, hmore⟩
  rcases hcase with ⟨hsub, hlisted | hsend⟩ | ⟨hsub, hmac, hproxy⟩
  · obtain ⟨env, d, dst, arps, hoptions, hsent, harps, hrun⟩ :=
      SubnetUnicast.exists_local ⟨hpast, hsub, hother.2.2.2.2.1⟩ hlisted options
    obtain ⟨more, hmore⟩ := hgrows (steps_sendEther env dst etherTypeIpv4 [rawPacket frame]) d
    have hlog : (after (lanPlayZerotierPcapHandler env mac frame w)).sent =
        w.sent ++ (arps ++ more) := by
      rw [hrun, sent_leaving, hmore, hsent, List.append_assoc]
    refine ⟨env, hoptions, ?_⟩
    rw [newFrames_append hlog]
    simp [harps]
  · obtain ⟨env, d, arp, hoptions, hsent, hrun⟩ :=
      SubnetUnicast.exists_reflected ⟨hpast, hsub, hother.2.2.2.2.1⟩ hsend options
    obtain ⟨more, hmore⟩ := hgrows (steps_lanPlaySendZerotierIpv4Broadcast env (rawPacket frame)) d
    have hlog : (after (lanPlayZerotierPcapHandler env mac frame w)).sent =
        w.sent ++ ⟨.zerotier, arp⟩ :: more := by
      rw [hrun, sent_leaving, hmore, hsent, List.append_assoc, List.singleton_append]
    exact ⟨env, hoptions, newFrames_ne_nil hlog⟩
  · -- lwIP may answer whatever is sent to the adapter
    obtain ⟨hleft, htype, hmin, hgw, hnin⟩ := hpast
    let answer : LwipPacket := ⟨List.replicate 20 0, by simp, by simp⟩
    let env : Env := { calmEnv 0 with options, lwipInput := fun _ _ => [answer] }
    obtain ⟨d, hd, hrun⟩ := @zerotierHandler_ipv4 env mac frame w hleft htype hmin
    have honpacket := gatewayOnPacket_eq env frame d hmin hleft.length.2
    rw [if_neg hproxy] at honpacket
    obtain ⟨d', frames, hout, hsent, hlen, -⟩ := gatewayOutput_sent env
      (lwipAnswer env d.asked frame) { d with asked := d.asked + 1 }
    obtain ⟨i, hi⟩ := List.length_eq_one_iff.mp hlen
    have hno : ¬ isSubnet (Frame.ipDst frame) w.lp.packetCtx.subnetNet
      w.lp.packetCtx.subnetMask = true := hsub
    have hlog : (after (lanPlayZerotierPcapHandler env mac frame w)).sent = w.sent ++ [i] := by
      rw [hrun, sent_leaving, hd.dispatch_eq, if_neg hgw, if_neg hnin, if_neg hno, if_pos hmac,
        bind_ok (honpacket.trans hout), pure_apply, after_ok, hsent, hi]
      exact congrArg (· ++ [i]) hd.sent
    exact ⟨env, rfl, newFrames_ne_nil hlog⟩

end Sends

/-- **No reflection.** Whatever the environment answers, a ZeroTier frame makes the
relay send no IPv4 to the overlay, and a packet for somebody else makes it send
nothing at all, exactly when the frame neither reflects nor escapes. -/
theorem no_reflection (options : Options) (mac : Mac) (w : World) (frame : Bytes) :
    (∀ env : Env, env.options = options →
      (∀ i ∈ newFrames w (after (lanPlayZerotierPcapHandler env mac frame w)),
        ¬ OverlayIpv4 i) ∧
      (Frame.etherType frame = etherTypeIpv4 → Unaddressed w.lp frame →
        newFrames w (after (lanPlayZerotierPcapHandler env mac frame w)) = [])) ↔
      ¬ Reflects mac w.lp frame ∧ ¬ Escapes mac w.lp frame := by
  constructor
  · intro hall
    refine ⟨fun hreflects => ?_, fun hescapes => ?_⟩
    · obtain ⟨env, hoptions, i, hi, hover⟩ := hreflects.sends options
      exact (hall env hoptions).1 i hi hover
    · obtain ⟨env, hoptions, hsent⟩ := hescapes.sends options
      exact hsent ((hall env hoptions).2 hescapes.1.2.1 hescapes.2.1)
  · rintro ⟨hreflects, hescapes⟩ env _
    exact handler_contained env mac frame w hreflects hescapes

/-- A packet of one peer for another, which the overlay delivered to everybody. -/
def strayFrame : Bytes :=
  etherHeader broadcastMac (mac6 0x02 0 0 0 0 0x66) etherTypeIpv4 ++
    ipv4Header 28 0 ipv4ProtocolIcmp (ip4 10 147 17 30) (ip4 10 147 17 40) ++
    [8, 0, 0xf7, 0xff, 0, 0, 0, 0]

/-- It goes back to the overlay as a broadcast. -/
theorem stray_packet_reflected :
    Reachable consoleWorld ∧ Unaddressed consoleWorld.lp strayFrame ∧
      (newFrames consoleWorld (after (lanPlayZerotierPcapHandler (calmEnv 1000)
        consoleWorld.lp.zerotierMac strayFrame consoleWorld))).map
        (fun i => (i.iface, Frame.etherDst i.frame, Frame.etherType i.frame)) =
        [(.zerotier, broadcastMac, etherTypeArp), (.zerotier, broadcastMac, etherTypeIpv4)] :=
  ⟨consoleWorld_reachable, by unfold Unaddressed; decide +kernel⟩

end Grid0Relay
