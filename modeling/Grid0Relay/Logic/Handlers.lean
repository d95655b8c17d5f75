import Grid0Relay.Logic.Footprint

/-!
# The handlers, up to the point where they part

Both handlers begin with steps that cannot fail: the adapter's own frames are
dropped, the frame is counted, and on ZeroTier its sender is entered in the
neighbour cache. The equations here run a handler to the end of these steps, and
the Wi-Fi handler on to the frames it serves.
-/

namespace Grid0Relay

open Lib Lib.Exec

variable {env : Env} {mac : Mac} {frame : Bytes} {w : World}

/-! ## Counting -/

/-- The receive counters after a frame. -/
def LanPlay.countRx (lp : LanPlay) (zerotier : Bool) (frame : Bytes) : LanPlay :=
  let type := Frame.etherType frame
  { lp with
    zerotierArpRx := if zerotier ∧ type = etherTypeArp then lp.zerotierArpRx + 1
      else lp.zerotierArpRx
    wifiArpRx := if ¬ zerotier ∧ type = etherTypeArp then lp.wifiArpRx + 1 else lp.wifiArpRx
    zerotierIpv4Rx := if zerotier ∧ type = etherTypeIpv4 then lp.zerotierIpv4Rx + 1
      else lp.zerotierIpv4Rx
    wifiIpv4Rx := if ¬ zerotier ∧ type = etherTypeIpv4 then lp.wifiIpv4Rx + 1
      else lp.wifiIpv4Rx }

theorem diagnosticCountRx_eq (zerotier : Bool) (frame : Bytes) (w : World) (h : 14 ≤ frame.length) :
    diagnosticCountRx zerotier frame w = .ok () { w with lp := w.lp.countRx zerotier frame } := by
  have htype : frame.net16 12 = Frame.etherType frame := rfl
  simp (disch := omega) only [diagnosticCountRx, readNet16_ok, pure_bind, htype]
  rw [if_neg (by omega)]
  by_cases harp : Frame.etherType frame = etherTypeArp
  · rw [if_pos harp, modifyLp_apply]
    cases zerotier <;> simp [LanPlay.countRx, harp, etherTypeIpv4_ne_arp.symm]
  · rw [if_neg harp]
    by_cases hip : Frame.etherType frame = etherTypeIpv4
    · rw [if_pos hip, modifyLp_apply]
      cases zerotier <;> simp [LanPlay.countRx, hip, etherTypeIpv4_ne_arp]
    · rw [if_neg hip, pure_apply]
      simp [LanPlay.countRx, harp, hip]

/-! ## Wi-Fi -/

/-- The world in which `wifiInput` starts. -/
def World.enterWifi (frame : Bytes) (w : World) : World :=
  { w with lp := { w.lp with ingressZerotier := false }.countRx false frame }

/-- A frame the handler does not look at: too short, or the adapter's own. -/
def Skipped (mac : Mac) (frame : Bytes) : Prop := frame.length < 14 ∨ Frame.etherSrc frame = mac
deriving Decidable

theorem lanPlayPcapHandler_eq (env : Env) (mac : Mac) (frame : Bytes) (w : World) :
    lanPlayPcapHandler env mac frame w =
      if Skipped mac frame then .ok () w else wifiInput env mac frame (w.enterWifi frame) := by
  by_cases hshort : frame.length < 14
  · rw [if_pos (show Skipped mac frame from Or.inl hshort), lanPlayPcapHandler, if_pos hshort,
      pure_apply]
  · have hmac : readMac frame 6 = pure (Frame.etherSrc frame) := readMac_ok (by omega)
    rw [lanPlayPcapHandler, if_neg hshort, hmac, pure_bind]
    by_cases hown : Frame.etherSrc frame = mac
    · rw [if_pos hown, if_pos (show Skipped mac frame from Or.inr hown), diagnosticLogFrame_eq,
        pure_apply]
    · rw [if_neg hown, if_neg (show ¬ Skipped mac frame from fun h => h.elim hshort hown)]
      simp only [bind_apply, modifyLp_apply, diagnosticCountRx_eq _ _ _ (Nat.not_lt.mp hshort),
        diagnosticLogFrame_eq, pure_apply]
      rfl

/-- `dhcp_parse` finds no client message in the frame. -/
def NotDhcp (frame : Bytes) : Prop := ∀ w, dhcpParse frame w = .ok none w

/-- The DHCP server leaves the frame alone. -/
def DhcpIgnores (options : Options) (lp : LanPlay) (frame : Bytes) : Prop :=
  ¬ (options.dhcpServer ∧ lp.wifiSubnetKnown) ∨ NotDhcp frame

theorem dhcpServerConsume_ignored (h : DhcpIgnores env.options w.lp frame) :
    dhcpServerConsume env frame w = .ok false w := by
  simp only [dhcpServerConsume, bind_apply, getLp_apply]
  by_cases hoff : (!env.options.dhcpServer) = true ∨ (!w.lp.wifiSubnetKnown) = true
  · rw [if_pos hoff, pure_apply]
  · rw [if_neg hoff, bind_apply]
    have hparse : NotDhcp frame := h.resolve_left (by simpa [not_or] using hoff)
    rw [hparse w]
    rfl

/-- The DHCP server passes on only frames it ignores, and does nothing to them. -/
theorem dhcpServerConsume_false {w' : World} (h : dhcpServerConsume env frame w = .ok false w') :
    w' = w ∧ DhcpIgnores env.options w.lp frame := by
  simp only [dhcpServerConsume, bind_apply, getLp_apply] at h
  by_cases hoff : (!env.options.dhcpServer) = true ∨ (!w.lp.wifiSubnetKnown) = true
  · rw [if_pos hoff, pure_apply] at h
    injection h with _ h
    refine ⟨h.symm, Or.inl fun hon => ?_⟩
    rcases hoff with hoff | hoff <;> simp_all
  · rw [if_neg hoff, bind_apply] at h
    cases hparse : dhcpParse frame w with
    | error e w₁ => simp [hparse] at h
    | ok parsed w₁ =>
      obtain ⟨rfl, hall⟩ := (reads_dhcpParse frame).ok_of_ok hparse
      rw [hparse] at h
      cases parsed with
      | none =>
        injection h with _ h
        exact ⟨h.symm, Or.inr hall⟩
      | some req =>
        -- a parsed message is always consumed
        exfalso
        simp only [bind_apply] at h
        cases hrespond : dhcpRespond env frame req w₁ with
        | error e w₂ | ok u w₂ => simp [hrespond] at h

/-- The frames that reach `serveConsole`. -/
def Served (options : Options) (lp : LanPlay) (frame : Bytes) : Prop :=
  ¬ DeliveryReply lp frame ∧ DhcpIgnores options lp frame ∧ Acceptable lp frame ∧
    (lp.switchSeen → senderIp frame = lp.switchIp)

theorem wifiInput_served (h : Served env.options w.lp frame) :
    ∃ w', learnLocalSwitch env frame w = .ok true w' ∧ Learned env frame w true w' ∧
      wifiInput env mac frame w = serveConsole env mac frame w' := by
  obtain ⟨hreply, hdhcp, haccept, hip⟩ := h
  obtain ⟨learned, w', hrun, hlearned⟩ := learnLocalSwitch_learned env frame w
  obtain rfl : learned = true := by
    cases hlearned with
    | rejected no => exact absurd ⟨haccept, hip⟩ no
    | conflict => rfl
    | again => rfl
    | adopted => rfl
  refine ⟨w', hrun, hlearned, ?_⟩
  simp only [wifiInput, bind_apply, consumeWifiDeliveryReply_eq, if_neg hreply,
    Bool.false_eq_true, if_false, dhcpServerConsume_ignored hdhcp, hrun, Bool.not_true]

/-- Every other frame only touches the DHCP server and the probe. -/
theorem wifiInput_unserved {R : World → World → Prop} [OnWifi R]
    (h : ¬ Served env.options w.lp frame) : R w (after (wifiInput env mac frame w)) := by
  by_cases hreply : DeliveryReply w.lp frame
  · simp only [wifiInput, bind_apply, consumeWifiDeliveryReply_eq, if_pos hreply, if_true]
    exact Quiet.quiet rfl rfl
  · simp only [wifiInput, bind_apply, consumeWifiDeliveryReply_eq, if_neg hreply,
      Bool.false_eq_true, if_false]
    have hdhcp := steps_dhcpServerConsume (R := R) env frame w
    cases hconsume : dhcpServerConsume env frame w with
    | error e w₁ =>
      rw [hconsume] at hdhcp
      exact hdhcp
    | ok consumed w₁ =>
      rw [hconsume] at hdhcp
      cases consumed with
      | true => exact hdhcp
      | false =>
        obtain ⟨rfl, hignores⟩ := dhcpServerConsume_false hconsume
        obtain ⟨learned, w', hrun, hlearned⟩ := learnLocalSwitch_learned env frame w₁
        cases hlearned with
        | rejected no => simpa [bind_apply, hrun] using hdhcp
        | conflict acc seen same _ _ | again acc seen same _ =>
          exact absurd ⟨hreply, hignores, acc, fun _ => same⟩ h
        | adopted acc new =>
          refine absurd ⟨hreply, hignores, acc, fun seen => ?_⟩ h
          exact (new.resolve_left (not_not_intro seen)).1

/-! ## The gateway path -/

/-- A result without its value. -/
def discard {α : Type} : EStateM.Result Fault World α → EStateM.Result Fault World Unit
  | .ok _ w => .ok () w
  | .error e w => .error e w

@[simp] theorem after_discard {α : Type} (r : EStateM.Result Fault World α) :
    after (discard r) = after r := by
  cases r <;> rfl

/-- `packet_set_mac`. -/
def World.setMac (mac : Mac) (w : World) : World :=
  { w with lp := { w.lp with packetCtx := { w.lp.packetCtx with mac } } }

/-- A frame counted by `get_packet`. -/
def World.download (frame : Bytes) (w : World) : World :=
  { w with
    lp := { w.lp with
      packetCtx := { w.lp.packetCtx with
        downloadPacket := w.lp.packetCtx.downloadPacket + 1
        downloadByte := w.lp.packetCtx.downloadByte + UInt64.ofNat frame.length } } }

theorem printPacket_eq (frame : Bytes) (w : World) : printPacket frame w = .ok () w := by
  simp only [printPacket, readRange_ok (Nat.le_of_eq (Nat.zero_add frame.length)), pure_bind,
    pure_apply]

theorem getPacket_long (h : 65536 ≤ frame.length) : getPacket env frame w = .ok () w := by
  rw [getPacket, if_pos h, printPacket_eq]

theorem getPacket_eq (h : frame.length < 65536) :
    getPacket env frame w = discard (processEther env frame (w.download frame)) := by
  rw [getPacket, if_neg (by omega)]
  have hcount : modifyPacketCtx (fun c =>
      { c with
        downloadPacket := c.downloadPacket + 1
        downloadByte := c.downloadByte + UInt64.ofNat frame.length }) w =
      .ok () (w.download frame) := rfl
  rw [bind_ok hcount]
  cases hether : processEther env frame (w.download frame) with
  | error e w' => exact bind_error hether
  | ok ret w' =>
    rw [bind_ok hether, ite_run, printPacket_eq, pure_apply, ite_self]
    rfl

theorem processEther_eq (env : Env) (frame : Bytes) (w : World) (h : 14 ≤ frame.length) :
    processEther env frame w =
      if Frame.etherSrc frame = w.lp.packetCtx.mac then .ok 0 w
      else if Frame.etherType frame = etherTypeArp then processArp env frame w
      else if Frame.etherType frame = etherTypeIpv4 then processIpv4 env frame w
      else .ok 0 w := by
  simp (disch := omega) only [processEther, readMac_ok, readNet16_ok, pure_bind, bind_apply,
    getLp_apply, ite_run, pure_apply]
  rfl

/-- The constant fields `process_arp` looks at. -/
def ArpFields (frame : Bytes) : Prop :=
  frame.net16 14 = arpHardtypeEther ∧ frame.net16 (14 + 2) = etherTypeIpv4 ∧
    frame.byte (14 + 4) = 6 ∧ frame.byte (14 + 5) = 4
deriving Decidable

/-- What `parse_arp` reads. -/
def arpOf (frame : Bytes) : Arp where
  hardwareType := frame.net16 14
  protocolType := frame.net16 (14 + 2)
  hardwareSize := frame.byte (14 + 4)
  protocolSize := frame.byte (14 + 5)
  opcode := Frame.arpOpcode frame
  senderMac := Frame.arpSenderMac frame
  senderIp := Frame.arpSenderIp frame
  targetMac := frame.vecAt 6 (14 + 18)
  targetIp := Frame.arpTargetIp frame

theorem processArp_short (h : frame.length < 42) :
    processArp env frame w = .error .readBounds w := by
  have hparse : parseArp frame = throw .readBounds := by
    refine (access_readNet16 _ _).bind fun _ => (access_readNet16 _ _).bind fun _ => ?_
    refine (access_readByte _ _).bind fun _ => (access_readByte _ _).bind fun _ => ?_
    refine (access_readNet16 _ _).bind fun _ => (access_readMac _ _).bind fun _ => ?_
    refine (access_readIp4 _ _).bind fun _ => (access_readMac _ _).bind fun _ => ?_
    rw [readIp4_outside (by omega)]
    rfl
  rw [processArp, hparse]
  rfl

theorem processArp_eq (env : Env) (frame : Bytes) (w : World) (h : 42 ≤ frame.length) :
    processArp env frame w =
      if ArpFields frame then
        dispatchArp env (arpOf frame)
          (w.learnArp env .packetCtx (Frame.arpSenderMac frame) (Frame.arpSenderIp frame))
      else .ok (-1) w := by
  have hparse : parseArp frame = pure (arpOf frame) := by
    simp (disch := omega) only [parseArp, readNet16_ok, readByte_ok, readMac_ok, readIp4_ok,
      pure_bind]
    rfl
  rw [processArp, hparse, pure_bind]
  by_cases hfields : ArpFields frame
  · rw [if_pos hfields]
    obtain ⟨hhard, hproto, hsize, hlen⟩ := hfields
    rw [if_neg (by simp [arpOf, hhard, hproto, hsize, hlen])]
    simp only [bind_apply, arpSet_eq]
    rfl
  · rw [if_neg hfields, if_pos, pure_apply]
    by_contra hno
    simp only [not_or, not_not] at hno
    exact hfields hno

/-- What `parse_ipv4` keeps of a frame. -/
def ipv4Of (frame : Bytes) : Ipv4 where
  headerLen := Frame.ipHeaderLen frame
  totalLen := Frame.ipTotalLen frame
  protocol := Frame.ipProtocol frame
  src := Frame.ipSrc frame
  dst := Frame.ipDst frame

theorem processIpv4_short (h : frame.length < 34) :
    processIpv4 env frame w = .error .readBounds w := by
  have hparse : parseIpv4Header frame = throw .readBounds := by
    refine (access_readByte _ _).bind fun _ => (access_readByte _ _).bind fun _ => ?_
    refine (access_readNet16 _ _).bind fun _ => (access_readNet16 _ _).bind fun _ => ?_
    refine (access_readNet16 _ _).bind fun _ => (access_readByte _ _).bind fun _ => ?_
    refine (access_readByte _ _).bind fun _ => (access_readNet16 _ _).bind fun _ => ?_
    refine (access_readIp4 _ _).bind fun _ => ?_
    rw [readIp4_outside (by omega)]
    rfl
  rw [processIpv4, hparse]
  rfl

theorem processIpv4_eq (env : Env) (frame : Bytes) (w : World) (h : 34 ≤ frame.length) :
    processIpv4 env frame w =
      dispatchIpv4 env frame (ipv4Of frame) (Frame.etherDst frame)
        (w.learnArp env .packetCtx (Frame.etherSrc frame) (Frame.ipSrc frame)) := by
  simp (disch := omega) only [processIpv4, parseIpv4Header, readNet16_ok, readByte_ok, readMac_ok,
    readIp4_ok, pure_bind, bind_apply, arpSet_eq]
  rfl

/-- An IPv4 frame goes to the switch over its destination, its sender in the cache. -/
theorem getPacket_ipv4 (htype : Frame.etherType frame = etherTypeIpv4) (hmin : 34 ≤ frame.length)
    (hmax : frame.length < 65536) (hsrc : Frame.etherSrc frame ≠ w.lp.packetCtx.mac) :
    getPacket env frame w =
      discard (dispatchIpv4 env frame (ipv4Of frame) (Frame.etherDst frame)
        ((w.download frame).learnArp env .packetCtx (Frame.etherSrc frame)
          (Frame.ipSrc frame))) := by
  have hsrc' : Frame.etherSrc frame ≠ (w.download frame).lp.packetCtx.mac := hsrc
  have harp : Frame.etherType frame ≠ etherTypeArp :=
    fun h => etherTypeIpv4_ne_arp (htype.symm.trans h)
  rw [getPacket_eq hmax, processEther_eq env frame _ (by omega), if_neg hsrc', if_neg harp,
    if_pos htype, processIpv4_eq env frame _ hmin]

/-! ## Serving the console -/

theorem serveConsole_arp (h : Frame.etherType frame = etherTypeArp) :
    serveConsole env mac frame w = getPacket env frame (w.setMac mac) := by
  have hrelay : relayIpv4 (lanPlayRelayWifiIpv4 env) frame = pure false := by
    simp (disch := omega) only [relayIpv4, readNet16_ok, pure_bind]
    have hno : frame.net16 12 ≠ etherTypeIpv4 := fun hip => etherTypeIpv4_ne_arp (hip.symm.trans h)
    rw [if_neg hno, ite_self]
  rw [serveConsole, hrelay]
  rfl

theorem serveConsole_ipv4 (h : Frame.etherType frame = etherTypeIpv4) (hlen : 34 ≤ frame.length) :
    serveConsole env mac frame w =
      (lanPlayRelayWifiIpv4 env frame >>= fun relayed =>
        if relayed then pure () else getPacket env frame) (w.setMac mac) := by
  have hrelay : relayIpv4 (lanPlayRelayWifiIpv4 env) frame = lanPlayRelayWifiIpv4 env frame := by
    simp (disch := omega) only [relayIpv4, readNet16_ok, pure_bind]
    rw [if_pos (by omega)]
    exact if_pos h
  rw [serveConsole, hrelay]
  rfl

/-- Past its tests `lan_play_relay_wifi_ipv4` always claims the frame. -/
theorem Forwardable.claims {v : World} {b : Bool}
    (h : Forwardable w.lp frame) (hok : lanPlayRelayWifiIpv4 env frame w = .ok b v) : b = true := by
  obtain ⟨warned, ret, guard, asked, -, hforward⟩ := forward_reserved env h
  rw [h.relay_eq, hforward] at hok
  split at hok
  · injection hok with hb
    exact hb.symm
  · obtain ⟨_, _, -, hok⟩ := bind_eq_ok hok
    injection hok with hb
    exact hb.symm

theorem serveConsole_forward
    (htype : Frame.etherType frame = etherTypeIpv4) (h : Forwardable w.lp frame) :
    serveConsole env mac frame w =
      discard (lanPlayRelayWifiIpv4 env frame (w.setMac mac)) := by
  have h' : Forwardable (w.setMac mac).lp frame := h
  rw [serveConsole_ipv4 htype h.1.2.1.length.1]
  cases hrun : lanPlayRelayWifiIpv4 env frame (w.setMac mac) with
  | error e v => rw [bind_error hrun]; rfl
  | ok b v =>
    obtain rfl := h'.claims hrun
    rw [bind_ok hrun]
    rfl

/-- A packet that is not for the overlay goes to the gateway. -/
theorem serveConsole_gateway
    (htype : Frame.etherType frame = etherTypeIpv4) (hlen : 34 ≤ frame.length)
    (h : ¬ ForOverlay w.lp frame) :
    serveConsole env mac frame w = getPacket env frame (w.setMac mac) := by
  have h' : ¬ ForOverlay (w.setMac mac).lp frame := h
  have hrelay : lanPlayRelayWifiIpv4 env frame (w.setMac mac) = .ok false (w.setMac mac) := by
    rw [lanPlayRelayWifiIpv4_eq, if_neg h']
  rw [serveConsole_ipv4 htype hlen, bind_ok hrelay]
  rfl

/-! ## ZeroTier -/

/-- The sender address the neighbour cache can take from a frame. -/
def peerOf (frame : Bytes) : Option Ip4 :=
  if Frame.etherType frame = etherTypeIpv4 ∧ 14 + 20 ≤ frame.length then
    if Frame.ipVersion frame = 4 then some (Frame.ipSrc frame) else none
  else if Frame.etherType frame = etherTypeArp ∧ 14 + 28 ≤ frame.length then
    if frame.net16 14 = 1 ∧ frame.net16 (14 + 2) = etherTypeIpv4 ∧ frame.byte (14 + 4) = 6 ∧
        frame.byte (14 + 5) = 4 ∧ Frame.arpSenderMac frame = Frame.etherSrc frame then
      some (Frame.arpSenderIp frame)
    else none
  else none

/-- The address it takes: a peer of the overlay, from an individual MAC. -/
def newPeer (lp : LanPlay) (frame : Bytes) : Option Ip4 :=
  match peerOf frame with
  | none => none
  | some ip =>
    if isZerotierDestination lp ip ∧ ip ≠ lp.zerotierIp ∧ ip ≠ lp.zerotierBroadcastIp ∧
        octet (Frame.etherSrc frame) 0 &&& 1 = 0 then some ip
    else none

theorem peerIp_eq (h : 14 ≤ frame.length) : peerIp frame = pure (peerOf frame) := by
  have htype : frame.net16 12 = Frame.etherType frame := rfl
  simp (disch := omega) only [peerIp, readNet16_ok, readByte_ok, readMac_ok, readIp4_ok, pure_bind,
    htype, ge_iff_le, peerOf, apply_ite (pure : Option Ip4 → RelayM (Option Ip4))]
  rfl

/-- The neighbour cache and the clock after `learnNeighbor`. -/
def World.meetPeer (env : Env) (frame : Bytes) (w : World) : World :=
  let list := w.lp.zerotierNeighbors.arpList
  { w with
    readings := match newPeer w.lp frame with
      | some _ => w.readings + 1
      | none => w.readings
    time := match newPeer w.lp frame with
      | some _ => env.clock w.readings
      | none => w.time
    lp := { w.lp with
      zerotierNeighbors := { w.lp.zerotierNeighbors with
        arpList := match newPeer w.lp frame with
          | some ip => (list.set (Frame.etherSrc frame) ip (env.clock w.readings)
              w.lp.zerotierNeighbors.arpTtl).getD list
          | none => list } } }

theorem learnNeighbor_eq (env : Env) (frame : Bytes) (w : World) (h : 14 ≤ frame.length) :
    learnNeighbor env frame w = .ok () (w.meetPeer env frame) := by
  have hmac : readMac frame 6 = pure (Frame.etherSrc frame) := readMac_ok (by omega)
  simp only [learnNeighbor, bind_apply, getLp_apply, peerIp_eq h, hmac, pure_apply]
  cases hpeer : peerOf frame with
  | none =>
    have hnew : newPeer w.lp frame = none := by rw [newPeer, hpeer]
    rw [World.meetPeer, hnew]
    rfl
  | some ip =>
    by_cases htake : isZerotierDestination w.lp ip ∧ ip ≠ w.lp.zerotierIp ∧
        ip ≠ w.lp.zerotierBroadcastIp ∧ octet (Frame.etherSrc frame) 0 &&& 1 = 0
    · have hnew : newPeer w.lp frame = some ip := by
        rw [newPeer, hpeer]
        exact if_pos htake
      rw [World.meetPeer, hnew]
      exact (congrFun (if_pos htake) w).trans (by rw [bind_apply, arpSet_eq]; rfl)
    · have hnew : newPeer w.lp frame = none := by
        rw [newPeer, hpeer]
        exact if_neg htake
      rw [World.meetPeer, hnew]
      exact congrFun (if_neg htake) w

/-- The world in which `zerotierInput` starts. -/
def World.enterZerotier (env : Env) (mac : Mac) (frame : Bytes) (w : World) : World :=
  let w := w.meetPeer env frame
  World.setMac mac { w with lp := { w.lp with ingressZerotier := true }.countRx true frame }

theorem lanPlayZerotierPcapHandler_eq (env : Env) (mac : Mac) (frame : Bytes) (w : World) :
    lanPlayZerotierPcapHandler env mac frame w =
      if Skipped mac frame then .ok () w
      else zerotierInput env frame (w.enterZerotier env mac frame) := by
  by_cases hshort : frame.length < 14
  · rw [if_pos (show Skipped mac frame from Or.inl hshort), lanPlayZerotierPcapHandler,
      if_pos hshort, pure_apply]
  · have hmac : readMac frame 6 = pure (Frame.etherSrc frame) := readMac_ok (by omega)
    rw [lanPlayZerotierPcapHandler, if_neg hshort, hmac, pure_bind]
    by_cases hown : Frame.etherSrc frame = mac
    · rw [if_pos hown, if_pos (show Skipped mac frame from Or.inr hown), diagnosticLogFrame_eq,
        pure_apply]
    · rw [if_neg hown, if_neg (show ¬ Skipped mac frame from fun h => h.elim hshort hown)]
      have hlen := Nat.not_lt.mp hshort
      simp only [bind_apply, learnNeighbor_eq _ _ _ hlen, modifyLp_apply,
        diagnosticCountRx_eq _ _ _ hlen, diagnosticLogFrame_eq, pure_apply]
      rfl

/-- The end of `lan_play_zerotier_pcap_handler`. -/
def World.leaveZerotier (w : World) : World :=
  { w with lp := { w.lp with ingressZerotier := false } }

theorem zerotierInput_delivered
    (htype : Frame.etherType frame = etherTypeIpv4) (h : Deliverable w.lp frame) :
    zerotierInput env frame w = .ok () (w.deliver env frame).leaveZerotier := by
  have hlen := h.2.1.length.1
  have hrelay : relayIpv4 (lanPlayRelayZerotierIpv4 env) frame =
      lanPlayRelayZerotierIpv4 env frame := by
    simp (disch := omega) only [relayIpv4, readNet16_ok, pure_bind]
    rw [if_pos (by omega)]
    exact if_pos htype
  rw [zerotierInput, hrelay, bind_ok (lanPlayRelayZerotierIpv4_delivered env frame w h)]
  rfl

theorem zerotierInput_declined (env : Env) (frame : Bytes) (w : World)
    (h : ¬ (Frame.etherType frame = etherTypeIpv4 ∧ Deliverable w.lp frame)) :
    ∃ warned, zerotierInput env frame w =
      (getPacket env frame >>= fun _ => modifyLp fun lp => { lp with ingressZerotier := false })
        { w with lp := { w.lp with warnedDirectSwitchDelivery := warned } } := by
  have hrelay : ∃ warned, relayIpv4 (lanPlayRelayZerotierIpv4 env) frame w =
      .ok false { w with lp := { w.lp with warnedDirectSwitchDelivery := warned } } := by
    simp (disch := omega) only [relayIpv4, readNet16_ok, pure_bind, ite_run]
    split
    · split
      · rename_i _ htype
        exact lanPlayRelayZerotierIpv4_declined env frame w fun hd => h ⟨htype, hd⟩
      · exact ⟨w.lp.warnedDirectSwitchDelivery, rfl⟩
    · exact ⟨w.lp.warnedDirectSwitchDelivery, rfl⟩
  obtain ⟨warned, hrelay⟩ := hrelay
  refine ⟨warned, ?_⟩
  rw [zerotierInput, bind_ok hrelay]
  rfl

/-! ## The handlers -/

section Handlers

variable {R : World → World → Prop}

theorem steps_relayIpv4 [Quiet R] {relay : Bytes → RelayM Bool}
    (h : Steps R (relay frame)) : Steps R (relayIpv4 relay frame) := by
  refine steps_when fun _ => ?_
  exact steps_bind (steps_readNet16 _ _) fun _ => steps_ite (fun _ => h) fun _ => steps_pure _

theorem steps_diagnosticCountRx [Quiet R] (zerotier : Bool) (frame : Bytes) :
    Steps R (diagnosticCountRx zerotier frame) := by
  refine steps_guard fun _ => ?_
  refine steps_bind (steps_readNet16 _ _) fun type => steps_ite (fun _ => ?_) fun _ =>
    steps_when fun _ => ?_
  · exact steps_modifyLp fun _ => by cases zerotier <;> rfl
  · exact steps_modifyLp fun _ => by cases zerotier <;> rfl

theorem steps_packetSetMac [Quiet R] (mac : Mac) : Steps R (packetSetMac mac) :=
  steps_modifyPacketCtx fun _ => rfl

theorem steps_setIngress [Quiet R] (b : Bool) :
    Steps R (modifyLp fun lp => { lp with ingressZerotier := b }) := steps_modifyLp fun _ => rfl

variable [Free R] [IgnoresArp .packetCtx R]

theorem steps_serveConsole (env : Env) (mac : Mac) (frame : Bytes) :
    Steps R (serveConsole env mac frame) := by
  refine steps_bind (steps_packetSetMac mac) fun _ => ?_
  refine steps_bind (steps_relayIpv4 (steps_lanPlayRelayWifiIpv4 _ _)) fun relayed => ?_
  exact steps_guard fun _ => steps_getPacket _ _

theorem steps_lanPlayPcapHandler [Learns R] (env : Env) (mac : Mac) (frame : Bytes) :
    Steps R (lanPlayPcapHandler env mac frame) := by
  have hinput : Steps R (wifiInput env mac frame) := by
    refine steps_bind (steps_consumeWifiDeliveryReply _) fun _ =>
      steps_guard fun _ => ?_
    refine steps_bind (steps_dhcpServerConsume _ _) fun _ =>
      steps_guard fun _ => ?_
    refine steps_bind (steps_learnLocalSwitch _ _) fun _ =>
      steps_guard fun _ => ?_
    exact steps_serveConsole env mac frame
  refine steps_guard fun _ => steps_bind (steps_readMac _ _) fun src => ?_
  refine steps_ite (fun _ => by simp) fun _ => steps_bind (steps_setIngress _) fun _ => ?_
  refine steps_bind (steps_diagnosticCountRx _ _) fun _ => ?_
  rw [diagnosticLogFrame_eq]
  exact steps_bind (steps_pure _) fun _ => hinput

theorem steps_zerotierInput [Probes R] (env : Env) (frame : Bytes) :
    Steps R (zerotierInput env frame) := by
  refine steps_bind (steps_relayIpv4 (steps_lanPlayRelayZerotierIpv4 _ _)) fun relayed => ?_
  refine steps_ite (fun _ => steps_setIngress _) fun _ => ?_
  exact steps_bind (steps_getPacket _ _) fun _ => steps_setIngress _

theorem steps_lanPlayZerotierPcapHandler [IgnoresArp .zerotierNeighbors R] [Probes R] (env : Env)
    (mac : Mac) (frame : Bytes) : Steps R (lanPlayZerotierPcapHandler env mac frame) := by
  intro w
  rw [lanPlayZerotierPcapHandler_eq]
  split
  · exact refl w
  · refine IsTrans.trans _ _ _ ?_ (steps_zerotierInput env frame _)
    refine IsTrans.trans _ _ _ (set_step .zerotierNeighbors w
      (w.meetPeer env frame).lp.zerotierNeighbors.arpList) ?_
    exact Quiet.quiet rfl rfl

/-- Every callback but the discovery timer, for a relation that ignores both caches. -/
theorem steps_handle_of_ne [IgnoresArp .zerotierNeighbors R] [Probes R] [Learns R] (env : Env)
    {event : Event} (h : event ≠ .discovery) : Steps R (handle env event) := by
  cases event with
  | wifi frame => exact steps_bind steps_getLp fun lp => steps_lanPlayPcapHandler _ _ _
  | zerotier frame => exact steps_bind steps_getLp fun lp => steps_lanPlayZerotierPcapHandler _ _ _
  | discovery => exact absurd rfl h
  | lwip output => exact steps_gatewayOutput env output
  | proxied src dst segment => exact steps_bind (steps_sendIpv4Ex _ _ _ _ _) fun _ => steps_pure _

omit [IgnoresArp .packetCtx R] in
theorem steps_switchDiscoveryTimerCb [Sweeps R] (env : Env) :
    Steps R (switchDiscoveryTimerCb env) := by
  have hprobe : ∀ target sender, Steps R (lanPlaySendWifiArpProbe env target sender) := by
    intro target sender
    have hcount : Steps R (modifyLp fun lp => { lp with wifiProbeTx := lp.wifiProbeTx + 1 }) :=
      steps_modifyLp fun _ => rfl
    exact steps_bind hcount fun _ => steps_bind steps_getLp fun lp => steps_sendWifi _ _
  have hadvance : ∀ phase, Steps R (modifyLp (advanceDiscovery phase)) := by
    intro phase
    refine steps_modifySweep fun lp => ?_
    simp only [advanceDiscovery]
    split_ifs <;> rfl
  have hpause : Steps R (modifyLp fun lp =>
      { lp with switchDiscoveryPauseTicks := lp.switchDiscoveryPauseTicks - 1 }) :=
    steps_modifySweep fun _ => rfl
  refine steps_bind steps_getLp fun lp => steps_guard fun _ => ?_
  refine steps_ite (fun _ => hpause) fun _ => ?_
  refine steps_bind (steps_guard fun _ => hprobe _ _) fun _ => ?_
  exact hadvance _

/-- Every callback, for a relation that ignores the sweep as well. -/
theorem steps_handle [Sweeps R] [IgnoresArp .zerotierNeighbors R] [Probes R] [Learns R] (env : Env)
    (event : Event) : Steps R (handle env event) := by
  by_cases h : event = .discovery
  · subst h
    exact steps_switchDiscoveryTimerCb env
  · exact steps_handle_of_ne env h

end Handlers

end Grid0Relay
