import Grid0Relay.Logic.Handlers

/-!
# The gateway path on a ZeroTier frame

What `process_ipv4` does with a frame the relay function declined: which branch
takes it, what the branch sends, and when it stops. The lookups read the clock
separately, so the equations keep each of them apart.
-/

namespace Grid0Relay

open Lib Lib.Exec

/-- The packet `process_ipv4` forwards: the frame's, untouched. -/
def rawPacket (frame : Bytes) : Payload := ⟨frame, 14, Frame.ipTotalLen frame⟩

/-! ## A unicast packet of the subnet -/

section Forward

variable {env : Env} {dst : Ip4} {packet : Payload} {w : World}

theorem forwardFromZerotier_unknown
    (h : w.lp.packetCtx.arpList.lookup dst (env.clock w.readings) = none) :
    forwardFromZerotier env dst packet w =
      lanPlaySendZerotierIpv4 env dst packet (w.tick env) := by
  have h' : (w.lp.arpList .packetCtx).lookup dst (env.clock w.readings) = none := h
  simp only [forwardFromZerotier, bind_apply, arpHasIp_eq, h', Option.isSome_none,
    Bool.false_eq_true, if_false, lanClientSendIpv4]

/-- A known destination gets the packet on Wi-Fi, after an ARP request if its entry
is gone at the second lookup. -/
theorem forwardFromZerotier_known {item : ArpItem}
    (h : w.lp.packetCtx.arpList.lookup dst (env.clock w.readings) = some item) :
    ∃ mac w' frames, forwardFromZerotier env dst packet w =
        sendEther env mac etherTypeIpv4 [packet] w' ∧
      w'.sent = w.sent ++ frames ∧ (∀ i ∈ frames, i.iface = .wifi) ∧
      (w.lp.packetCtx.arpList.lookup dst (env.clock (w.readings + 1)) = none → frames ≠ []) := by
  have h' : (w.lp.arpList .packetCtx).lookup dst (env.clock w.readings) = some item := h
  simp only [forwardFromZerotier, bind_apply, arpHasIp_eq, h', Option.isSome_some, if_true]
  cases hsecond : w.lp.packetCtx.arpList.lookup dst (env.clock (w.readings + 1)) with
  | some item' =>
    have hsecond' : ((w.tick env).lp.arpList .packetCtx).lookup dst
      (env.clock (w.tick env).readings) = some item' := hsecond
    rw [arpGetMacByIp_known hsecond']
    exact ⟨_, _, [], rfl, (List.append_nil _).symm, by simp, by simp⟩
  | none =>
    have hsecond' : (w.tick env).lp.packetCtx.arpList.lookup dst
      (env.clock (w.tick env).readings) = none := hsecond
    rw [arpGetMacByIp_unknown hsecond']
    exact ⟨_, _, [⟨.wifi, _⟩], rfl, rfl, by simp, by simp⟩

end Forward

/-! ## The UDP proxy and lwIP -/

/-- The test of `gateway::processUdp`. -/
def ForProxy (frame : Bytes) : Prop :=
  Frame.ipVersion frame = 4 ∧ Frame.ipProtocol frame = ipv4ProtocolUdp
deriving Decidable

/-- The datagram `gateway::processUdp` hands to the proxy. -/
def proxiedOf (frame : Bytes) : UdpSend where
  src := Frame.ipSrc frame
  srcport := srcPort frame
  dst := Frame.ipDst frame
  dstport := dstPort frame
  payload := frame.slice (14 + Frame.ipHeaderLen frame + 8)
    (frame.length - 14 - Frame.ipHeaderLen frame - 8)

/-- A UDP packet must have room for its header; the length of the rest wraps. -/
theorem processUdp_eq (frame : Bytes) (w : World) (hmin : 34 ≤ frame.length)
    (hmax : frame.length < 65536) :
    processUdp frame w =
      if ForProxy frame then
        if 14 + Frame.ipHeaderLen frame + 8 ≤ frame.length then
          .ok 0 { w with proxied := w.proxied ++ [proxiedOf frame] }
        else .error .readBounds w
      else .ok (-1) w := by
  have hver : frame.byte 14 >>> 4 = Frame.ipVersion frame := rfl
  have hhead : (frame.byte 14 &&& 15).toNat * 4 = Frame.ipHeaderLen frame := rfl
  have hproto : frame.byte (14 + 9) = Frame.ipProtocol frame := rfl
  simp (disch := omega) only [processUdp, readByte_ok, readIp4_ok, pure_bind, hproto]
  rw [if_pos (by omega), pure_bind]
  by_cases h4 : Frame.ipVersion frame = 4
  · rw [hver, if_pos h4, if_neg (by omega)]
    by_cases hudp : Frame.ipProtocol frame = ipv4ProtocolUdp
    · rw [if_neg (not_not_intro hudp), if_pos (show ForProxy frame from ⟨h4, hudp⟩), hhead]
      by_cases hroom : 14 + Frame.ipHeaderLen frame + 8 ≤ frame.length
      · have hlen : (((frame.length - 14 : Nat) : Int) - (Frame.ipHeaderLen frame : Int) - 8) %
            65536 = ((frame.length - 14 - Frame.ipHeaderLen frame - 8 : Nat) : Int) := by omega
        rw [if_pos hroom, hlen, Int.toNat_natCast]
        simp (disch := omega) only [readNet16_ok, readRange_ok, pure_bind]
        rfl
      · rw [if_neg hroom]
        have hle := Frame.ipHeaderLen_le frame
        have hfault : ∀ (k : Bytes → RelayM Int),
            (readRange frame (14 + Frame.ipHeaderLen frame + 8)
              ((((frame.length - 14 : Nat) : Int) - (Frame.ipHeaderLen frame : Int) - 8) %
                65536).toNat >>= k) = throw .readBounds := by
          intro k
          rw [readRange, if_neg (by omega)]
          rfl
        have hread : ∀ i, Access (readNet16 frame i) := access_readNet16 frame
        exact congrFun ((hread _).bind fun _ => (hread _).bind fun _ => hfault _) w
    · rw [if_pos hudp, if_neg fun h : ForProxy frame => hudp h.2]
      rfl
  · rw [hver, if_neg h4, if_neg fun h : ForProxy frame => h4 h.1]
    rfl

/-- A packet of lwIP reaches Wi-Fi, or an ARP request for it does. -/
theorem lanPlayGatewaySendPacket_sent (env : Env) (packet : LwipPacket) (w : World) :
    ∃ ret w' i, lanPlayGatewaySendPacket env packet.bytes w = .ok ret w' ∧
      w'.sent = w.sent ++ [i] ∧ w'.proxied = w.proxied := by
  have hmin := packet.minLen
  have hmax := packet.maxLen
  have hlen : packet.bytes.length % 65536 = packet.bytes.length := Nat.mod_eq_of_lt (by omega)
  rw [lanPlayGatewaySendPacket, readIp4_ok (by omega), pure_bind]
  cases hfound : w.lp.packetCtx.arpList.lookup (packet.bytes.vecAt 4 16) (env.clock w.readings) with
  | none =>
    rw [bind_ok (arpGetMacByIp_unknown hfound)]
    exact ⟨_, _, _, rfl, rfl, rfl⟩
  | some item =>
    have hfound' : (w.lp.arpList .packetCtx).lookup (packet.bytes.vecAt 4 16)
      (env.clock w.readings) = some item := hfound
    rw [bind_ok (arpGetMacByIp_known hfound')]
    simp only [sendEther_one, bufferSize]
    rw [if_neg (by simp only [hlen]; omega),
      if_pos (show Payload.Inside _ from Or.inr (by simp only [hlen]; omega))]
    exact ⟨_, _, _, rfl, rfl, rfl⟩

theorem gatewayOutput_sent (env : Env) (output : List LwipPacket) (w : World) :
    ∃ w' frames, gatewayOutput env output w = .ok () w' ∧ w'.sent = w.sent ++ frames ∧
      frames.length = output.length ∧ w'.proxied = w.proxied := by
  induction output generalizing w with
  | nil => exact ⟨w, [], rfl, (List.append_nil _).symm, rfl, rfl⟩
  | cons packet rest ih =>
    obtain ⟨ret, w₁, i, hsend, hsent, hproxied⟩ := lanPlayGatewaySendPacket_sent env packet w
    obtain ⟨w₂, frames, hrest, hsent', hlen, hproxied'⟩ := ih w₁
    refine ⟨w₂, i :: frames, ?_, ?_, by simp [hlen], hproxied'.trans hproxied⟩
    · rw [gatewayOutput, bind_ok hsend, hrest]
    · rw [hsent', hsent, List.append_assoc, List.singleton_append]

/-- What lwIP answers to a frame that is not for the proxy. -/
def lwipAnswer (env : Env) (n : Nat) (frame : Bytes) : List LwipPacket :=
  env.lwipInput n (frame.slice 14 (frame.length - 14))

theorem gatewayOnPacket_eq (env : Env) (frame : Bytes) (w : World) (hmin : 34 ≤ frame.length)
    (hmax : frame.length < 65536) :
    gatewayOnPacket env frame w =
      if ForProxy frame then
        if 14 + Frame.ipHeaderLen frame + 8 ≤ frame.length then
          .ok () { w with proxied := w.proxied ++ [proxiedOf frame] }
        else .error .readBounds w
      else gatewayOutput env (lwipAnswer env w.asked frame) { w with asked := w.asked + 1 } := by
  have hudp := processUdp_eq frame w hmin hmax
  rw [gatewayOnPacket]
  by_cases hproxy : ForProxy frame
  · rw [if_pos hproxy] at hudp ⊢
    by_cases hroom : 14 + Frame.ipHeaderLen frame + 8 ≤ frame.length
    · rw [if_pos hroom] at hudp ⊢
      rw [bind_ok hudp]
      rfl
    · rw [if_neg hroom] at hudp ⊢
      rw [bind_error hudp]
  · rw [if_neg hproxy] at hudp ⊢
    rw [bind_ok hudp, if_neg (by decide), readRange_ok (by omega), pure_bind]
    rfl

/-! ## Getting there -/

/-- The frames the ZeroTier handler leaves to the gateway. -/
def LeftToGateway (mac : Mac) (lp : LanPlay) (frame : Bytes) : Prop :=
  ¬ Skipped mac frame ∧ frame.length < 65536 ∧
    ¬ (Frame.etherType frame = etherTypeIpv4 ∧ Deliverable lp frame)
deriving Decidable

theorem LeftToGateway.length {mac : Mac} {lp : LanPlay} {frame : Bytes}
    (h : LeftToGateway mac lp frame) : 14 ≤ frame.length ∧ frame.length < 65536 :=
  ⟨Nat.not_lt.mp fun hshort => h.1 (Or.inl hshort), h.2.1⟩

/-- The clock reading at which the gateway enters the sender of a frame in the local
cache: the first after the neighbour cache has taken its own. -/
def gatewayReading (w : World) (frame : Bytes) : Nat :=
  match newPeer w.lp frame with
  | some _ => w.readings + 1
  | none => w.readings

/-- The result of the gateway as the result of the ZeroTier handler. -/
def leaving {α : Type} : EStateM.Result Fault World α → EStateM.Result Fault World Unit
  | .ok _ w => .ok () w.leaveZerotier
  | .error e w => .error e w

@[simp] theorem sent_leaving {α : Type} (r : EStateM.Result Fault World α) :
    (after (leaving r)).sent = (after r).sent := by
  cases r <;> rfl

@[simp] theorem arpList_leaving {α : Type} (r : EStateM.Result Fault World α) :
    (after (leaving r)).lp.packetCtx.arpList = (after r).lp.packetCtx.arpList := by
  cases r <;> rfl

@[simp] theorem allows_leaving {α : Type} (P : Fault → Prop) (r : EStateM.Result Fault World α) :
    Allows P (leaving r) ↔ Allows P r := by
  cases r <;> simp [leaving]

/-- The world in which `process_ether` gets the frame; the warning is the relay
function's. -/
def World.atGateway (env : Env) (mac : Mac) (frame : Bytes) (warned : Bool) (w : World) : World :=
  let w := w.enterZerotier env mac frame
  World.download frame { w with lp := { w.lp with warnedDirectSwitchDelivery := warned } }

theorem zerotierHandler_left {env : Env} {mac : Mac} {frame : Bytes} {w : World}
    (h : LeftToGateway mac w.lp frame) :
    ∃ warned, lanPlayZerotierPcapHandler env mac frame w =
      leaving (processEther env frame (w.atGateway env mac frame warned)) := by
  obtain ⟨hskip, hmax, hdeliver⟩ := h
  obtain ⟨warned, hrun⟩ := zerotierInput_declined env frame (w.enterZerotier env mac frame) hdeliver
  refine ⟨warned, ?_⟩
  rw [lanPlayZerotierPcapHandler_eq, if_neg hskip, hrun, bind_apply, getPacket_eq hmax]
  unfold World.atGateway
  cases processEther env frame _ <;> rfl

/-- The local cache once it has the sender of a frame. -/
def cacheWith (lp : LanPlay) (frame : Bytes) (now : Nat) : ArpTable :=
  (lp.packetCtx.arpList.set (Frame.etherSrc frame) (Frame.ipSrc frame) now
    lp.packetCtx.arpTtl).getD lp.packetCtx.arpList

/-- The world in which `process_ipv4` looks at the destination. -/
structure AtDispatch (env : Env) (mac : Mac) (frame : Bytes) (w d : World) : Prop where
  sent : d.sent = w.sent
  asked : d.asked = w.asked
  readings : d.readings = gatewayReading w frame + 1
  ingress : d.lp.ingressZerotier = true
  config : d.lp.config = w.lp.config
  mac : d.lp.packetCtx.mac = mac
  arpList : d.lp.packetCtx.arpList = cacheWith w.lp frame (env.clock (gatewayReading w frame))
  neighbors : d.lp.zerotierNeighbors = (w.meetPeer env frame).lp.zerotierNeighbors

theorem zerotierHandler_ipv4 {env : Env} {mac : Mac} {frame : Bytes} {w : World}
    (h : LeftToGateway mac w.lp frame) (htype : Frame.etherType frame = etherTypeIpv4)
    (hmin : 34 ≤ frame.length) :
    ∃ d, AtDispatch env mac frame w d ∧ lanPlayZerotierPcapHandler env mac frame w =
      leaving (dispatchIpv4 env frame (ipv4Of frame) (Frame.etherDst frame) d) := by
  obtain ⟨warned, hrun⟩ := @zerotierHandler_left env mac frame w h
  have harp : Frame.etherType frame ≠ etherTypeArp :=
    fun harp => etherTypeIpv4_ne_arp (htype.symm.trans harp)
  have hsrc : Frame.etherSrc frame ≠ (w.atGateway env mac frame warned).lp.packetCtx.mac :=
    fun hown => h.1 (Or.inr hown)
  rw [processEther_eq env frame _ h.length.1, if_neg hsrc, if_neg harp, if_pos htype,
    processIpv4_eq env frame _ hmin] at hrun
  refine ⟨_, ?_, hrun⟩
  exact ⟨rfl, rfl, rfl, rfl, rfl, rfl, rfl, rfl⟩

/-- The branches of `process_ipv4` for a ZeroTier frame. -/
theorem AtDispatch.dispatch_eq {env : Env} {mac : Mac} {frame : Bytes} {w d : World}
    (h : AtDispatch env mac frame w d) :
    dispatchIpv4 env frame (ipv4Of frame) (Frame.etherDst frame) d =
      if Frame.ipDst frame = w.lp.packetCtx.ip then
        if Frame.ipProtocol frame = ipv4ProtocolIcmp then processIcmp env frame (ipv4Of frame) d
        else .ok 0 d
      else if isNintendoLanBroadcast (Frame.ipDst frame) then
        sendEther env broadcastMac etherTypeIpv4 [rawPacket frame] d
      else if isSubnet (Frame.ipDst frame) w.lp.packetCtx.subnetNet w.lp.packetCtx.subnetMask then
        if isBroadcast (Frame.ipDst frame) w.lp.packetCtx.subnetNet w.lp.packetCtx.subnetMask then
          sendEther env broadcastMac etherTypeIpv4 [rawPacket frame] d
        else forwardFromZerotier env (Frame.ipDst frame) (rawPacket frame) d
      else if mac = Frame.etherDst frame then
        (gatewayOnPacket env frame >>= fun _ => pure 0) d
      else .ok 0 d := by
  have hgw : d.lp.packetCtx.ip = w.lp.packetCtx.ip := congrArg Config.gatewayIp h.config
  have hnet : d.lp.packetCtx.subnetNet = w.lp.packetCtx.subnetNet :=
    congrArg Config.subnetNet h.config
  have hmask : d.lp.packetCtx.subnetMask = w.lp.packetCtx.subnetMask :=
    congrArg Config.subnetMask h.config
  simp only [dispatchIpv4, bind_apply, getLp_apply, h.ingress, h.mac, hgw, hnet, hmask, if_true,
    Bool.not_true, Bool.false_eq_true, if_false, ite_run, pure_apply]
  rfl

/-- Every other frame is skipped, too long, or delivered. -/
theorem zerotierHandler_kept {env : Env} {mac : Mac} {frame : Bytes} {w : World}
    (h : ¬ LeftToGateway mac w.lp frame) :
    ∃ w', lanPlayZerotierPcapHandler env mac frame w = .ok () w' ∧
      w'.lp.packetCtx.arpList = w.lp.packetCtx.arpList ∧
      (w'.sent = w.sent ∨ Deliverable w.lp frame ∧ Emits (fun i => ¬ OverlayIpv4 i) w w') := by
  rw [lanPlayZerotierPcapHandler_eq]
  by_cases hskip : Skipped mac frame
  · rw [if_pos hskip]
    exact ⟨w, rfl, rfl, Or.inl rfl⟩
  rw [if_neg hskip]
  by_cases hdeliver : Frame.etherType frame = etherTypeIpv4 ∧ Deliverable w.lp frame
  · have hdeliver' : Deliverable (w.enterZerotier env mac frame).lp frame := hdeliver.2
    have hemit := (steps_lanPlayRelayZerotierIpv4 env frame :
      Steps (Emits fun i => ¬ OverlayIpv4 i) _) (w.enterZerotier env mac frame)
    rw [lanPlayRelayZerotierIpv4_delivered env frame _ hdeliver', after_ok] at hemit
    rw [zerotierInput_delivered hdeliver.1 hdeliver']
    refine ⟨_, rfl, ?_, Or.inr ⟨hdeliver.2, hemit⟩⟩
    unfold World.deliver
    split <;> rfl
  · obtain ⟨warned, hrun⟩ := zerotierInput_declined env frame
      (w.enterZerotier env mac frame) hdeliver
    have hlong : 65536 ≤ frame.length := Nat.not_lt.mp fun hmax => h ⟨hskip, hmax, hdeliver⟩
    rw [hrun, bind_apply, getPacket_long hlong]
    exact ⟨_, rfl, rfl, Or.inl rfl⟩

end Grid0Relay
