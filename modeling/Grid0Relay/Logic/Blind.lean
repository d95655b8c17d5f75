import Grid0Relay.Lib.TwoRuns
import Grid0Relay.Logic.Handlers

/-!
# What the relay does not look at

Which part of the state influences what the relay does. `LanPlay.view` erases the
statistics counters, which only the log prints, and, where a `Scope` says so, the
state of the discovery sweep and the ingress flag. Every function is shown `Blind`
to what is erased: from two worlds with the same view it returns the same and
leaves the same view.
-/

namespace Grid0Relay

open Lib Lib.Exec

/-- What is kept besides the configuration, the caches and the console: the
discovery sweep while its timer runs, the ingress flag inside a handler. -/
structure Scope where
  ticking : Bool
  ingress : Bool

variable {v : Scope} {α β : Type} (env : Env)

@[simps] def LanPlay.view (v : Scope) (lp : LanPlay) : LanPlay :=
  { lp with
    ingressZerotier := v.ingress && lp.ingressZerotier
    wifiArpRx := 0
    wifiIpv4Rx := 0
    zerotierArpRx := 0
    zerotierIpv4Rx := 0
    wifiTx := 0
    wifiProbeTx := 0
    zerotierTx := 0
    switchMacConflicts := 0
    switchDiscoveryHost := cond v.ticking lp.switchDiscoveryHost 0
    switchDiscoveryPauseTicks := cond v.ticking lp.switchDiscoveryPauseTicks 0
    switchDiscoveryWifiPhase := v.ticking && lp.switchDiscoveryWifiPhase }

/-- The last clock reading is a ghost, so it goes too. -/
def World.view (v : Scope) (w : World) : World := { w with lp := w.lp.view v, time := 0 }

def SameView (v : Scope) (w w' : World) : Prop := w.view v = w'.view v

/-- The program does the same to what the view keeps, whatever the rest is. -/
abbrev Blind (v : Scope) (x : RelayM α) : Prop := Relates (SameView v) (SameView v) x

/-! ## Rules -/

theorem SameView.lp {w w' : World} (h : SameView v w w') : w.lp.view v = w'.lp.view v :=
  congrArg World.lp h

theorem blind_bind {x : RelayM α} {f : α → RelayM β} (hx : Blind v x) (hf : ∀ a, Blind v (f a)) :
    Blind v (x >>= f) := relates_bind hx hf fun _ _ h => h

theorem blind_read {x : RelayM α} {f : α → RelayM β} (hx : Reads x) (hf : ∀ a, Blind v (f a)) :
    Blind v (x >>= f) := blind_bind hx.relates hf

/-- A read of the struct, of which only what the view keeps is used. -/
theorem relates_getLp {q : World → World → Prop} {f : LanPlay → RelayM α}
    (hview : ∀ lp, f (lp.view v) = f lp) (hf : ∀ lp, Relates (SameView v) q (f lp)) :
    Relates (SameView v) q (getLp >>= f) := by
  intro s t h
  have heq : f s.lp = f t.lp := by rw [← hview s.lp, h.lp, hview t.lp]
  rw [bind_ok (getLp_apply s), bind_ok (getLp_apply t), heq]
  exact hf t.lp s t h

/-- What the world becomes is determined, up to the view, by the view. -/
theorem blind_modifyGet {f : World → α × World} (g : World → α × World)
    (hview : ∀ w, ((f w).1, (f w).2.view v) = g (w.view v)) : Blind v (modifyGet f) := by
  intro s t h
  have heq : ((f s).1, (f s).2.view v) = ((f t).1, (f t).2.view v) := by
    rw [hview s, hview t, h]
  injection heq with hval hstate
  rw [modifyGet_apply, modifyGet_apply, hval]
  exact .ok _ hstate

theorem blind_modify {f : World → World} (g : World → World)
    (hview : ∀ w, (f w).view v = g (w.view v)) : Blind v (modify f : RelayM PUnit) :=
  relates_modify fun s t h => (hview s).trans ((congrArg g h).trans (hview t).symm)

/-- An update of fields that are kept, computed from fields that are kept. -/
theorem blind_update {f : LanPlay → LanPlay} (hview : ∀ lp, (f lp).view v = f (lp.view v)) :
    Blind v (modifyLp f) :=
  blind_modify (fun w => { w with lp := f w.lp }) fun w =>
    congrArg (fun lp => ({ w with lp := lp, time := 0 } : World)) (hview w.lp)

/-- An update of fields that are erased. -/
theorem blind_count {f : LanPlay → LanPlay} (hview : ∀ lp, (f lp).view v = lp.view v) :
    Blind v (modifyLp f) :=
  blind_modify id fun w => congrArg (fun lp => ({ w with lp := lp, time := 0 } : World)) (hview w.lp)

theorem blind_modifyPacketCtx {f : PacketCtx → PacketCtx} : Blind v (modifyPacketCtx f) :=
  blind_update fun _ => rfl

theorem blind_modifyDhcp {f : DhcpServerState → DhcpServerState} : Blind v (modifyDhcp f) :=
  blind_update fun _ => rfl

theorem blind_ask (answer : Nat → α) : Blind v (ask answer) :=
  blind_modifyGet (fun w => (answer w.asked, { w with asked := w.asked + 1 })) fun _ => rfl

theorem blind_timeNull : Blind v (timeNull env) :=
  blind_modifyGet (fun w => (env.clock w.readings, { w with readings := w.readings + 1 }))
    fun _ => rfl

theorem blind_uvPcapSendpacket (iface : Iface) (frame : Bytes) :
    Blind v (uvPcapSendpacket env iface frame) :=
  blind_modifyGet (fun w => (env.sendpacket w.asked,
    { w with asked := w.asked + 1, sent := w.sent ++ [⟨iface, frame⟩] })) fun _ => rfl

/-! ## Memory -/

theorem reads_copyRange (cap : Nat) (b : Bytes) (off len : Nat) : Reads (copyRange cap b off len) :=
  reads_ite (fun _ => reads_throw _) fun _ => reads_readRange _ _ _

theorem reads_writeRange (b : Bytes) (off : Nat) (xs : Bytes) : Reads (writeRange b off xs) :=
  reads_guard fun _ => reads_throw _

theorem reads_gatherPayloads (buf : Bytes) (parts : List Payload) :
    Reads (gatherPayloads buf parts) := by
  induction parts generalizing buf with
  | nil => exact reads_pure buf
  | cons part rest ih =>
    refine reads_ite (fun _ => reads_throw _) fun _ => ?_
    exact reads_bind (reads_copyRange _ _ _ _) fun bytes => ih (buf ++ bytes)

theorem reads_rewriteIpv4Addresses (ip : Bytes) (capturedLen : Nat) (src dst : Ip4) :
    Reads (rewriteIpv4Addresses ip capturedLen src dst) := by
  refine reads_guard fun _ => ?_
  refine reads_bind (reads_readByte _ _) fun _ => reads_bind (reads_readNet16 _ _) fun _ => ?_
  refine reads_guard fun _ => ?_
  refine reads_bind (reads_writeRange _ _ _) fun _ => reads_bind (reads_writeRange _ _ _) fun _ => ?_
  refine reads_bind (reads_writeRange _ _ _) fun _ => reads_bind (reads_readRange _ _ _) fun _ => ?_
  refine reads_bind (reads_writeRange _ _ _) fun _ => reads_bind (reads_readByte _ _) fun _ => ?_
  refine reads_when fun _ => ?_
  refine reads_bind (reads_writeRange _ _ _) fun _ => reads_bind (reads_readRange _ _ _) fun _ => ?_
  exact reads_bind (reads_writeRange _ _ _) fun _ => reads_pure _

/-! ## Senders -/

theorem blind_lanPlaySendPacket (data : Bytes) : Blind v (lanPlaySendPacket env data) := by
  refine blind_bind (blind_count fun _ => rfl) fun _ => ?_
  rw [diagnosticLogFrame_eq, pure_bind]
  exact blind_uvPcapSendpacket env _ data

theorem blind_lanPlaySendWifiIpv4 (dstMac : Mac) (ip : Payload) :
    Blind v (lanPlaySendWifiIpv4 env dstMac ip) := by
  refine relates_guard fun _ => relates_getLp (fun _ => rfl) fun lp => ?_
  exact blind_read (reads_copyRange _ _ _ _) fun body => blind_lanPlaySendPacket env _

theorem blind_sendEtherEx (dst src : Mac) (type : Nat) (parts : List Payload) :
    Blind v (sendEtherEx env dst src type parts) :=
  blind_read (reads_gatherPayloads _ _) fun buf =>
    blind_bind blind_modifyPacketCtx fun _ => blind_lanPlaySendPacket env buf

theorem blind_sendEther (dst : Mac) (type : Nat) (parts : List Payload) :
    Blind v (sendEther env dst type parts) :=
  relates_getLp (fun _ => rfl) fun _ => blind_sendEtherEx env _ _ _ _

theorem blind_zerotierTransmit (frame : Bytes) : Blind v (zerotierTransmit env frame) := by
  refine blind_bind (blind_count fun _ => rfl) fun _ => ?_
  rw [diagnosticLogFrame_eq, pure_bind]
  exact blind_uvPcapSendpacket env _ frame

theorem blind_lanPlaySendZerotierArp (senderIp targetIp : Ip4) :
    Blind v (lanPlaySendZerotierArp env senderIp targetIp) :=
  relates_getLp (fun _ => rfl) fun _ => blind_zerotierTransmit env _

theorem blind_lanPlaySendZerotierIpv4Broadcast (packet : Payload) :
    Blind v (lanPlaySendZerotierIpv4Broadcast env packet) := by
  refine relates_guard fun _ => relates_getLp (fun _ => rfl) fun lp => ?_
  exact blind_read (reads_copyRange _ _ _ _) fun body => blind_zerotierTransmit env _

/-! ## The ARP caches -/

theorem blind_arpHasIp (self : Ctx) (ip : Ip4) : Blind v (arpHasIp env self ip) := by
  refine blind_bind (blind_timeNull env) fun now => relates_getLp (fun lp => ?_) fun _ => relates_pure _
  cases self <;> rfl

theorem blind_arpGetMacByIp (self : Ctx) (ip : Ip4) : Blind v (arpGetMacByIp env self ip) := by
  have hrequest : Blind v (sendArpRequest env self ip) := by
    cases self with
    | packetCtx => exact relates_getLp (fun _ => rfl) fun lp => blind_sendEther env _ _ _
    | zerotierNeighbors => exact relates_throw _
  refine blind_bind (blind_timeNull env) fun now => relates_getLp (fun lp => ?_) fun lp => ?_
  · cases self <;> rfl
  · split
    · exact relates_pure _
    · exact blind_bind hrequest fun _ => relates_pure _

theorem blind_arpSet (self : Ctx) (mac : Mac) (ip : Ip4) : Blind v (arpSet env self mac ip) := by
  refine blind_bind (blind_timeNull env) fun now => relates_getLp (fun lp => ?_) fun lp => ?_
  · cases self <;> rfl
  · split
    · refine blind_bind (blind_update fun lp => ?_) fun _ => relates_pure _
      cases self <;> rfl
    · exact relates_pure _

theorem blind_lanPlaySendZerotierIpv4 (dst : Ip4) (packet : Payload) :
    Blind v (lanPlaySendZerotierIpv4 env dst packet) := by
  refine relates_guard fun _ => ?_
  refine blind_bind (blind_arpHasIp _ _ _) fun known => ?_
  refine blind_bind (relates_ite (fun _ => blind_arpGetMacByIp _ _ _) fun _ => relates_pure _)
    fun found => relates_getLp (fun _ => rfl) fun lp => ?_
  cases found with
  | none =>
    exact blind_bind (blind_lanPlaySendZerotierArp _ _ _) fun _ =>
      blind_lanPlaySendZerotierIpv4Broadcast env packet
  | some mac =>
    exact blind_read (reads_copyRange _ _ _ _) fun body => blind_zerotierTransmit env _

/-! ## The gateway -/

theorem blind_sendIpv4Ex (src dst : Ip4) (protocol : UInt8) (parts : List Payload) :
    Blind v (sendIpv4Ex env src dst protocol parts) := by
  refine relates_getLp (fun _ => rfl) fun lp => blind_bind blind_modifyPacketCtx fun _ => ?_
  refine blind_bind (blind_arpGetMacByIp _ _ _) fun found => ?_
  cases found with
  | none => exact relates_pure _
  | some mac => exact blind_sendEther env _ _ _

theorem blind_gatewayOutput (output : List LwipPacket) : Blind v (gatewayOutput env output) := by
  have hsend : ∀ data, Blind v (lanPlayGatewaySendPacket env data) := by
    intro data
    refine blind_read (reads_readIp4 _ _) fun dst => ?_
    refine blind_bind (blind_arpGetMacByIp _ _ _) fun found => ?_
    cases found with
    | none => exact relates_pure _
    | some mac => exact blind_sendEther env _ _ _
  induction output with
  | nil => exact relates_pure _
  | cons packet rest ih => exact blind_bind (hsend _) fun _ => ih

theorem blind_processUdp (frame : Bytes) : Blind v (processUdp frame) := by
  have hlog : ∀ send : UdpSend, Blind v
      (modify fun w : World => { w with proxied := w.proxied ++ [send] } : RelayM PUnit) :=
    fun send => blind_modify (fun w => { w with proxied := w.proxied ++ [send] }) fun _ => rfl
  have hfirst : Blind v (if frame.length - 14 > 0 then readByte frame 14 else pure 0) :=
    relates_ite (fun _ => (reads_readByte _ _).relates) fun _ => relates_pure _
  refine blind_bind hfirst fun verLen => relates_when fun _ => ?_
  refine relates_guard fun _ => ?_
  refine blind_read (reads_readByte _ _) fun protocol => ?_
  refine relates_guard fun _ => ?_
  refine blind_read (reads_readIp4 _ _) fun src => ?_
  refine blind_read (reads_readIp4 _ _) fun dst => ?_
  refine blind_read (reads_readNet16 _ _) fun srcport => ?_
  refine blind_read (reads_readNet16 _ _) fun dstport => ?_
  refine blind_read (reads_readRange _ _ _) fun payload => ?_
  exact blind_bind (hlog _) fun _ => relates_pure _

theorem blind_gatewayOnPacket (frame : Bytes) : Blind v (gatewayOnPacket env frame) := by
  refine blind_bind (blind_processUdp frame) fun handled => ?_
  refine relates_guard fun _ => ?_
  refine blind_read (reads_readRange _ _ _) fun input => ?_
  exact blind_bind (blind_ask _) fun output => blind_gatewayOutput env output

theorem blind_processIcmp (frame : Bytes) (ipv4 : Ipv4) : Blind v (processIcmp env frame ipv4) := by
  refine relates_ite (fun _ => relates_throw _) fun _ => ?_
  refine blind_read (reads_copyRange _ _ _ _) fun data => ?_
  refine blind_read (reads_writeRange _ _ _) fun payload => ?_
  refine blind_read (reads_writeRange _ _ _) fun payload => ?_
  refine blind_read (reads_writeRange _ _ _) fun payload => ?_
  refine blind_bind ?_ fun _ => relates_pure _
  exact relates_getLp (fun _ => rfl) fun lp => blind_sendIpv4Ex env _ _ _ _

theorem blind_forwardFromZerotier (dst : Ip4) (packet : Payload) :
    Blind v (forwardFromZerotier env dst packet) := by
  refine blind_bind (blind_arpHasIp _ _ _) fun known => ?_
  refine relates_ite (fun _ => ?_) fun _ => blind_lanPlaySendZerotierIpv4 env _ _
  refine blind_bind (blind_arpGetMacByIp _ _ _) fun found => ?_
  cases found with
  | none => exact blind_bind (blind_ask _) fun _ => blind_sendEther env _ _ _
  | some mac => exact blind_sendEther env _ _ _

/-! Dispatch looks at the ingress flag. -/

section Dispatch

variable {ticking : Bool}

theorem blind_arpRequest (arp : Arp) : Blind ⟨ticking, true⟩ (arpRequest env arp) := by
  refine relates_getLp (fun _ => rfl) fun lp => ?_
  refine relates_when fun _ => ?_
  refine relates_guard fun _ => ?_
  refine relates_guard fun _ => ?_
  refine relates_ite (fun _ => ?_) fun _ => ?_
  · refine relates_guard fun _ => ?_
    exact relates_getLp (fun _ => rfl) fun _ => blind_zerotierTransmit env _
  · refine blind_bind (relates_guard fun _ => blind_arpHasIp _ _ _) ?_
    intro known
    refine blind_bind (relates_guard fun _ =>
      blind_lanPlaySendZerotierArp env _ _) fun _ => ?_
    exact blind_sendEther env _ _ _

theorem blind_dispatchIpv4 (frame : Bytes) (ipv4 : Ipv4) (etherDst : Mac) :
    Blind ⟨ticking, true⟩ (dispatchIpv4 env frame ipv4 etherDst) := by
  refine relates_getLp (fun _ => rfl) fun lp => relates_ite (fun _ => ?_) fun _ => ?_
  · exact relates_ite (fun _ => blind_processIcmp env _ _) fun _ => relates_pure _
  refine relates_ite (fun _ => ?_) fun _ => ?_
  · exact relates_ite (fun _ => blind_sendEther env _ _ _) fun _ =>
      blind_lanPlaySendZerotierIpv4Broadcast env _
  refine relates_ite (fun _ => ?_) fun _ => ?_
  · refine relates_ite (fun _ => ?_) fun _ => ?_
    · exact relates_ite (fun _ => blind_sendEther env _ _ _) fun _ =>
        blind_lanPlaySendZerotierIpv4 env _ _
    · exact relates_ite (fun _ => blind_lanPlaySendZerotierIpv4 env _ _) fun _ =>
        blind_forwardFromZerotier env _ _
  · refine relates_when fun _ => ?_
    exact blind_bind (blind_gatewayOnPacket env _) fun _ => relates_pure _

theorem blind_processEther (frame : Bytes) : Blind ⟨ticking, true⟩ (processEther env frame) := by
  refine blind_read (reads_readMac _ _) fun dst => ?_
  refine blind_read (reads_readMac _ _) fun src => ?_
  refine blind_read (reads_readNet16 _ _) fun type => ?_
  refine relates_getLp (fun _ => rfl) fun lp => relates_guard fun _ => ?_
  refine relates_ite (fun _ => ?_) fun _ => relates_when fun _ => ?_
  · refine blind_read (reads_parseArp frame) fun arp => ?_
    refine relates_guard fun _ => ?_
    refine blind_bind (blind_arpSet _ _ _ _) fun _ => ?_
    refine relates_ite (fun _ => blind_arpRequest env arp) fun _ => ?_
    exact relates_guard fun _ => relates_pure _
  · refine blind_read (reads_parseIpv4Header frame) fun ipv4 => ?_
    refine blind_read (reads_readMac _ _) fun src => ?_
    refine blind_read (reads_readMac _ _) fun dst => ?_
    exact blind_bind (blind_arpSet _ _ _ _) fun _ => blind_dispatchIpv4 env frame ipv4 dst

theorem blind_getPacket (frame : Bytes) : Blind ⟨ticking, true⟩ (getPacket env frame) := by
  have hprint : Reads (printPacket frame) :=
    reads_bind (reads_readRange _ _ _) fun _ => reads_pure _
  refine relates_ite (fun _ => hprint.relates) fun _ => ?_
  refine blind_bind blind_modifyPacketCtx fun _ => blind_bind (blind_processEther env frame) ?_
  exact fun ret => relates_ite (fun _ => hprint.relates) fun _ => relates_pure _

end Dispatch

/-! ## The DHCP server -/

theorem blind_dhcpPickPool (now : Nat) (net bcast gw self : UInt32) (fuel : Nat)
    (cand : UInt32) : Blind v (dhcpPickPool env now net bcast gw self fuel cand) := by
  induction fuel generalizing cand with
  | zero => exact relates_pure _
  | succ fuel ih =>
    refine relates_when fun _ => ?_
    refine relates_getLp (fun _ => rfl) fun lp => relates_ite (fun _ => ih _) fun _ => ?_
    refine blind_bind (blind_arpHasIp _ _ _) fun known => ?_
    exact relates_ite (fun _ => ih _) fun _ => relates_pure _

theorem blind_dhcpPickIp (mac : Mac) : Blind v (dhcpPickIp env mac) := by
  refine blind_bind (blind_timeNull _) fun now => relates_getLp (fun _ => rfl) fun lp => ?_
  split
  · exact relates_pure _
  · refine blind_bind (relates_guard fun _ => blind_arpHasIp _ _ _) ?_
    exact fun known => relates_guard fun _ =>
      blind_dhcpPickPool _ _ _ _ _ _ _ _

theorem blind_dhcpClaim (mac : Mac) (ip : Ip4) (offered : Bool) :
    Blind v (dhcpClaim env mac ip offered) := by
  simp only [dhcpClaim]
  refine blind_bind (blind_timeNull _) fun now => relates_getLp (fun _ => rfl) fun lp => ?_
  split
  · exact relates_pure _
  · exact blind_bind blind_modifyDhcp fun _ => relates_pure _

/-- The reply is built from the configuration and the file-level counter. -/
theorem blind_dhcpSendReply (dstMac : Mac) (req : DhcpRequest) (msgType : UInt8)
    (yiaddr : Ip4) : Blind v (dhcpSendReply env dstMac req msgType yiaddr) := by
  refine blind_bind (blind_modify (fun w => { w with dhcpIpId := w.dhcpIpId + 1 }) fun _ => rfl) ?_
  intro _ s t h
  have hview : s.view v = t.view v := h
  have hbuilt := congrArg
    (fun w : World => dhcpReplyPacket w.lp w.dhcpIpId dstMac req msgType yiaddr) hview
  have hpacket : dhcpReplyPacket s.lp s.dhcpIpId dstMac req msgType yiaddr =
      dhcpReplyPacket t.lp t.dhcpIpId dstMac req msgType yiaddr := hbuilt
  rw [bind_ok (get_apply s), bind_ok (get_apply t), hpacket]
  exact blind_lanPlaySendWifiIpv4 env _ _ s t h

theorem blind_dhcpHandle (mac : Mac) (req : DhcpRequest) : Blind v (dhcpHandle env mac req) := by
  -- after a reply that was sent, one counter
  have hcount : ∀ (ret : Int) (f : DhcpServerState → DhcpServerState),
      Blind v (if ret = 0 then modifyDhcp f else pure ()) :=
    fun ret f => relates_ite (fun _ => blind_modifyDhcp) fun _ => relates_pure _
  have hdiscover : Blind v (dhcpDiscover env mac req) := by
    refine blind_bind (blind_dhcpPickIp _ _) fun picked => ?_
    cases picked with
    | none => exact relates_pure _
    | some ip =>
      refine blind_bind (blind_dhcpClaim _ _ _ _) fun claimed => ?_
      refine relates_when fun _ => ?_
      exact blind_bind (blind_dhcpSendReply _ _ _ _ _) fun ret => hcount ret _
  have hrequested : Blind v (dhcpRequested env mac req) := by
    simp only [dhcpRequested, bind_map_left]
    refine relates_getLp (fun _ => rfl) fun first => ?_
    refine blind_bind (blind_timeNull _) fun now => relates_getLp (fun _ => rfl) fun lp => ?_
    split
    · refine blind_bind (blind_dhcpClaim _ _ _ _) fun _ => ?_
      exact blind_bind (blind_dhcpSendReply _ _ _ _ _) fun ret => hcount ret _
    · refine relates_ite (fun _ => ?_) fun _ =>
        relates_ite (fun _ => blind_modifyDhcp) fun _ => relates_pure _
      exact blind_bind (blind_dhcpSendReply _ _ _ _ _) fun ret => hcount ret _
  refine relates_ite (fun _ => blind_modifyDhcp) fun _ => ?_
  refine relates_ite (fun _ => hdiscover) fun _ => relates_ite (fun _ => hrequested) fun _ => ?_
  exact relates_ite (fun _ => blind_modifyDhcp) fun _ => relates_pure _

theorem blind_dhcpServerConsume (frame : Bytes) : Blind v (dhcpServerConsume env frame) := by
  refine relates_getLp (fun _ => rfl) fun lp => relates_guard fun _ => ?_
  refine blind_read (reads_dhcpParse _) fun parsed => ?_
  cases parsed with
  | none => exact relates_pure _
  | some req =>
    refine blind_bind ?_ fun _ => relates_pure _
    refine blind_bind (blind_timeNull _) fun now => blind_bind blind_modifyDhcp fun _ => ?_
    exact blind_read (reads_readMac _ _) fun mac => blind_dhcpHandle _ _ _

/-! ## The console -/

theorem blind_probeWifiDelivery : Blind v (probeWifiDelivery env) := by
  refine relates_getLp (fun _ => rfl) fun lp => relates_guard fun _ => ?_
  refine blind_bind (blind_ask _) fun nonce => ?_
  refine blind_read (reads_rewriteIpv4Addresses _ _ _ _) fun rewritten => ?_
  refine blind_bind (blind_update fun _ => rfl) fun _ => ?_
  exact blind_bind (blind_lanPlaySendWifiIpv4 _ _ _) fun _ => relates_pure _

theorem blind_consumeWifiDeliveryReply (frame : Bytes) :
    Blind v (consumeWifiDeliveryReply frame) := by
  refine relates_getLp (fun _ => rfl) fun lp => relates_guard fun _ => ?_
  refine blind_read (reads_readNet16 _ _) fun type => ?_
  refine blind_read (reads_readMac _ _) fun etherSrc => ?_
  refine blind_read (reads_readMac _ _) fun etherDst => ?_
  refine relates_guard fun _ => ?_
  refine blind_read (reads_readByte _ _) fun verLen => ?_
  refine blind_read (reads_readNet16 _ _) fun total => ?_
  refine blind_read (reads_readByte _ _) fun protocol => ?_
  refine blind_read (reads_readNet16 _ _) fun flags => ?_
  refine blind_read (reads_readIp4 _ _) fun src => ?_
  refine blind_read (reads_readIp4 _ _) fun dst => ?_
  refine relates_guard fun _ => ?_
  refine blind_read (reads_readRange _ _ _) fun icmp => ?_
  refine blind_read (reads_readRange _ _ _) fun header => ?_
  refine relates_guard fun _ => ?_
  exact blind_bind (blind_update fun _ => rfl) fun _ => relates_pure _

theorem blind_learnLocalSwitch (frame : Bytes) : Blind v (learnLocalSwitch env frame) := by
  have hsender : ∀ lp, Blind v (learnSender lp frame) := by
    intro lp
    rw [learnSender_eq]
    exact relates_pure _
  refine relates_getLp (fun _ => rfl) fun lp => blind_bind (hsender lp) fun sender => ?_
  rcases sender with _ | ⟨ip, direct⟩
  · exact relates_pure _
  refine blind_read (reads_readMac _ _) fun mac => ?_
  refine relates_guard fun _ => relates_ite (fun _ => relates_pure _) ?_
  refine fun _ => relates_ite (fun _ => ?_) fun _ => ?_
  · exact blind_bind (blind_count fun _ => rfl) fun _ => relates_pure _
  · refine blind_bind (blind_update fun _ => rfl) fun _ => ?_
    refine relates_when fun _ => ?_
    refine blind_bind (blind_arpSet _ _ _ _) fun _ => blind_bind (blind_update fun _ => rfl) ?_
    exact fun _ => blind_bind (blind_probeWifiDelivery env) fun _ => relates_pure _

/-! ## The relay functions -/

theorem blind_nativeUdpGuardReserve (port : Nat) : Blind v (nativeUdpGuardReserve env port) := by
  refine relates_getLp (fun _ => rfl) fun lp => ?_
  split
  · exact relates_pure _
  refine relates_guard fun _ => relates_ite (fun _ => relates_pure _) ?_
  refine fun _ => relates_guard fun _ => ?_
  refine blind_bind (blind_ask _) fun allocated => relates_guard fun _ => ?_
  refine blind_bind (blind_ask _) fun ret => relates_guard fun _ => ?_
  refine blind_bind (blind_ask _) fun ret => ?_
  refine blind_bind (relates_ite (fun _ => blind_ask _) fun _ => relates_pure _) fun ret => ?_
  refine relates_guard fun _ => ?_
  exact blind_bind (blind_update fun _ => rfl) fun _ => relates_pure _

theorem reads_isPortUnreachable (frame : Bytes) (ipLen : Nat) :
    Reads (isPortUnreachable frame ipLen) := by
  refine reads_bind (reads_readByte _ _) fun _ => reads_bind (reads_readNet16 _ _) fun _ => ?_
  refine reads_bind (reads_readByte _ _) fun _ => reads_when fun _ => ?_
  refine reads_bind (reads_readByte _ _) fun _ => reads_bind (reads_readByte _ _) fun _ => ?_
  exact reads_pure _

theorem blind_warnBroadcastMismatch (frame : Bytes) (ipLen headerLen : Nat)
    (originalDst dst : Ip4) :
    Blind v (warnBroadcastMismatch frame ipLen headerLen originalDst dst) := by
  refine relates_getLp (fun _ => rfl) fun lp => ?_
  refine blind_read (reads_readByte _ _) fun protocol => ?_
  refine blind_read (reads_readNet16 _ _) fun flags => ?_
  refine relates_when fun _ => ?_
  refine blind_read (reads_readNet16 _ _) fun dstport => ?_
  exact relates_ite (fun _ => blind_update fun _ => rfl) fun _ => relates_pure _

theorem blind_lanPlayRelayWifiIpv4 (frame : Bytes) : Blind v (lanPlayRelayWifiIpv4 env frame) := by
  have hreserve : ∀ ipLen headerLen, Blind v (reserveSourcePort env frame ipLen headerLen) := by
    intro ipLen headerLen
    refine blind_read (reads_readByte _ _) fun protocol => ?_
    refine blind_read (reads_readNet16 _ _) fun flags => ?_
    refine relates_when fun _ => ?_
    exact blind_read (reads_readNet16 _ _) fun port => blind_nativeUdpGuardReserve env port
  have hsend : ∀ broadcast dst packet, Blind v (sendOverlay env broadcast dst packet) :=
    fun broadcast dst packet => relates_ite
      (fun _ => blind_lanPlaySendZerotierIpv4Broadcast env _)
      fun _ => blind_lanPlaySendZerotierIpv4 env _ _
  refine relates_getLp (fun _ => rfl) fun lp => relates_guard fun _ => ?_
  refine blind_read (reads_readIp4 _ _) fun src => ?_
  refine blind_read (reads_readNet16 _ _) fun ipLen => ?_
  refine blind_read (reads_readIp4 _ _) fun originalDst => ?_
  refine relates_guard fun _ => ?_
  refine blind_read (reads_isPortUnreachable _ _) fun unreachable => ?_
  refine relates_guard fun _ => ?_
  refine blind_read (reads_copyRange _ _ _ _) fun translated => ?_
  refine blind_read (reads_rewriteIpv4Addresses _ _ _ _) fun rewritten => ?_
  refine relates_guard fun _ => ?_
  refine blind_read (reads_readByte _ _) fun verLen => ?_
  refine blind_bind (blind_warnBroadcastMismatch _ _ _ _ _) fun _ => ?_
  refine blind_bind (hreserve _ _) fun ret => relates_guard fun _ => ?_
  exact blind_bind (hsend _ _ _) fun _ => relates_pure _

theorem blind_lanPlayRelayZerotierIpv4 (frame : Bytes) :
    Blind v (lanPlayRelayZerotierIpv4 env frame) := by
  have hprobe : ∀ ipLen ret broadcast,
      Blind v (probeAfterDelivery env frame ipLen ret broadcast) := by
    intro ipLen ret broadcast
    refine blind_read (reads_readByte _ _) fun verLen => ?_
    refine blind_read (reads_readByte _ _) fun protocol => ?_
    refine blind_read (reads_readNet16 _ _) fun flags => ?_
    refine relates_when fun _ => ?_
    refine blind_read (reads_readNet16 _ _) fun dstport => ?_
    exact relates_ite (fun _ => blind_probeWifiDelivery env) fun _ => relates_pure _
  refine relates_getLp (fun _ => rfl) fun lp => relates_guard fun _ => ?_
  refine blind_read (reads_readNet16 _ _) fun ipLen => ?_
  refine blind_read (reads_readIp4 _ _) fun originalDst => ?_
  refine relates_guard fun _ => ?_
  refine blind_bind (blind_update fun _ => rfl) fun _ => ?_
  refine blind_read (reads_copyRange _ _ _ _) fun translated => ?_
  refine blind_read (reads_readIp4 _ _) fun src => ?_
  refine blind_read (reads_rewriteIpv4Addresses _ _ _ _) fun rewritten => ?_
  refine relates_guard fun _ => ?_
  refine blind_bind (blind_lanPlaySendWifiIpv4 _ _ _) fun ret => ?_
  exact blind_bind (hprobe _ _ _) fun _ => relates_pure _

/-! ## The handlers

A handler sets the ingress flag before anything reads it, so between two callbacks
the flag does not matter. -/

section Handlers

variable {ticking : Bool}

def World.setIngress (zerotier : Bool) (w : World) : World :=
  { w with lp := { w.lp with ingressZerotier := zerotier } }

theorem SameView.between {w w' : World} (h : SameView ⟨ticking, true⟩ w w') :
    SameView ⟨ticking, false⟩ w w' := by
  have hcleared := congrArg (World.setIngress false) h
  exact hcleared

theorem relates_ingress (zerotier : Bool) :
    Relates (SameView ⟨ticking, false⟩) (SameView ⟨ticking, true⟩)
      (modifyLp fun lp => { lp with ingressZerotier := zerotier }) := by
  refine relates_modify fun _ _ h => ?_
  have hset := congrArg (World.setIngress zerotier) h
  exact hset

theorem blind_diagnosticCountRx (zerotier : Bool) (frame : Bytes) :
    Blind v (diagnosticCountRx zerotier frame) := by
  refine relates_guard fun _ => ?_
  refine blind_read (reads_readNet16 _ _) fun type => relates_ite (fun _ => ?_) fun _ => ?_
  · exact blind_count fun lp => by cases zerotier <;> rfl
  · refine relates_when fun _ => ?_
    exact blind_count fun lp => by cases zerotier <;> rfl

theorem blind_relayIpv4 {relay : Bytes → RelayM Bool} (hrelay : ∀ frame, Blind v (relay frame))
    (frame : Bytes) : Blind v (relayIpv4 relay frame) := by
  refine relates_when fun _ => ?_
  refine blind_read (reads_readNet16 _ _) fun type => ?_
  exact relates_ite (fun _ => hrelay frame) fun _ => relates_pure _

theorem blind_wifiInput (mac : Mac) (frame : Bytes) :
    Blind ⟨ticking, true⟩ (wifiInput env mac frame) := by
  refine blind_bind (blind_consumeWifiDeliveryReply frame) fun replied => ?_
  refine relates_guard fun _ => ?_
  refine blind_bind (blind_dhcpServerConsume env frame) fun consumed => ?_
  refine relates_guard fun _ => ?_
  refine blind_bind (blind_learnLocalSwitch env frame) fun learned => ?_
  refine relates_guard fun _ => ?_
  refine blind_bind blind_modifyPacketCtx fun _ => ?_
  refine blind_bind (blind_relayIpv4 (blind_lanPlayRelayWifiIpv4 env) frame) fun relayed => ?_
  exact relates_guard fun _ => blind_getPacket env frame

theorem blind_lanPlayPcapHandler (mac : Mac) (frame : Bytes) :
    Blind ⟨ticking, false⟩ (lanPlayPcapHandler env mac frame) := by
  refine relates_guard fun _ => ?_
  refine blind_read (reads_readMac _ _) fun src => ?_
  simp only [diagnosticLogFrame_eq, pure_bind]
  refine relates_guard fun _ => ?_
  refine relates_bind (relates_ingress false) (fun _ => ?_) fun _ _ h => h.between
  refine Relates.mono (q := SameView ⟨ticking, true⟩) ?_ fun _ _ h => h.between
  exact blind_bind (blind_diagnosticCountRx _ _) fun _ => blind_wifiInput env mac frame

theorem blind_learnNeighbor {frame : Bytes} (h : 14 ≤ frame.length) :
    Blind v (learnNeighbor env frame) := by
  refine relates_getLp (fun _ => rfl) fun lp => ?_
  rw [peerIp_eq h, pure_bind]
  refine blind_read (reads_readMac _ _) fun etherSrc => ?_
  split
  · exact relates_pure _
  · refine relates_when fun _ => ?_
    exact blind_bind (blind_arpSet _ _ _ _) fun _ => relates_pure _

theorem blind_lanPlayZerotierPcapHandler (mac : Mac) (frame : Bytes) :
    Blind ⟨ticking, false⟩ (lanPlayZerotierPcapHandler env mac frame) := by
  refine relates_guard fun hlen => ?_
  refine blind_read (reads_readMac _ _) fun src => ?_
  simp only [diagnosticLogFrame_eq, pure_bind]
  refine relates_guard fun _ => ?_
  refine blind_bind (blind_learnNeighbor env (by omega)) fun _ => ?_
  refine relates_bind (relates_ingress true) (fun _ => ?_) fun _ _ h => h.between
  refine Relates.mono (q := SameView ⟨ticking, true⟩) ?_ fun _ _ h => h.between
  refine blind_bind (blind_diagnosticCountRx _ _) fun _ => blind_bind blind_modifyPacketCtx ?_
  refine fun _ => blind_bind (blind_relayIpv4 (blind_lanPlayRelayZerotierIpv4 env) frame) ?_
  refine fun relayed => relates_ite (fun _ => blind_update fun _ => rfl) fun _ => ?_
  exact blind_bind (blind_getPacket env frame) fun _ => blind_update fun _ => rfl

/-! ## Discovery -/

theorem blind_switchDiscoveryTimerCb {ingress : Bool} :
    Blind ⟨true, ingress⟩ (switchDiscoveryTimerCb env) := by
  have hadvance : ∀ wifiPhase, Blind ⟨true, ingress⟩ (modifyLp (advanceDiscovery wifiPhase)) := by
    intro wifiPhase
    refine blind_update fun lp => ?_
    simp only [advanceDiscovery, LanPlay.view_switchDiscoveryHost, cond_true]
    split_ifs <;> rfl
  have hprobe : ∀ targetIp senderIp,
      Blind ⟨true, ingress⟩ (lanPlaySendWifiArpProbe env targetIp senderIp) := by
    intro targetIp senderIp
    refine blind_bind (blind_count fun _ => rfl) fun _ => relates_getLp (fun _ => rfl) fun lp => ?_
    exact blind_uvPcapSendpacket env _ _
  refine relates_getLp (fun _ => rfl) fun lp => relates_guard fun _ => ?_
  refine relates_ite (fun _ => blind_update fun _ => rfl) fun _ => ?_
  refine blind_bind (relates_guard fun _ => hprobe _ _) fun _ => ?_
  exact hadvance _

/-! ## Runs -/

/-- One callback. The timer only fires while it runs. -/
theorem blind_handle {event : Event} (htick : event = .discovery → ticking = true) :
    Blind ⟨ticking, false⟩ (handle env event) := by
  cases event with
  | wifi frame => exact relates_getLp (fun _ => rfl) fun lp => blind_lanPlayPcapHandler env _ frame
  | zerotier frame =>
    exact relates_getLp (fun _ => rfl) fun lp => blind_lanPlayZerotierPcapHandler env _ frame
  | discovery =>
    rw [htick rfl]
    exact blind_switchDiscoveryTimerCb env
  | lwip output => exact blind_gatewayOutput env output
  | proxied src dst segment =>
    exact blind_bind (blind_sendIpv4Ex env _ _ _ _) fun _ => relates_pure _

theorem blind_deliver {α : Type} (source : Option α) {handler : α → RelayM Unit}
    (h : ∀ a, Blind v (handler a)) : Blind v (deliver source handler) := by
  cases source with
  | none => exact relates_pure _
  | some a => exact h a

/-- Whatever calls the relay. -/
theorem blind_receive (l : Loop) {a : Arrival} (htick : a = .event .discovery → ticking = true) :
    Blind ⟨ticking, false⟩ (l.receive env a) := by
  cases a with
  | wifi i frame => exact blind_deliver _ fun c => blind_lanPlayPcapHandler env c.mac frame
  | zerotier i frame =>
    exact blind_deliver _ fun c => blind_lanPlayZerotierPcapHandler env c.mac frame
  | proxied i src segment => exact blind_deliver _ fun dst => blind_handle env nofun
  | event event => exact blind_handle env fun h => htick (congrArg Arrival.event h)

/-- A whole run from two worlds with the same view ends in worlds with the same view. -/
theorem sameView_run (l : Loop) {arrivals : List Arrival}
    (htick : .event .discovery ∈ arrivals → ticking = true) {w w' : World}
    (h : SameView ⟨ticking, false⟩ w w') :
    SameView ⟨ticking, false⟩ (l.run env arrivals w) (l.run env arrivals w') := by
  induction arrivals generalizing w w' with
  | nil => exact h
  | cons a rest ih =>
    have hstep : Blind ⟨ticking, false⟩ (l.receive env a) := blind_receive env l
      fun heq => htick (heq ▸ List.mem_cons_self)
    exact ih (fun hmem => htick (List.mem_cons_of_mem _ hmem)) (hstep w w' h).after

end Handlers

end Grid0Relay
