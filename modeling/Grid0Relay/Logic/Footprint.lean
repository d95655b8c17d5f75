import Grid0Relay.Logic.Relay

/-!
# Footprints

What a function can do to the world, whether it returns or faults, for a whole
family of relations at once. A relation on worlds is

* `Quiet` when it looks at nothing but the core of the struct, the sweep and the log, and
  `Sweeps` when it allows the sweep to move on;
* `OnWifi` when it also allows frames on Wi-Fi, and `Local` when it allows ARP frames
  on ZeroTier as well;
* `Free` when it allows any frame;
* `IgnoresArp` when it does not look at one of the caches, `Probes` when it allows
  the delivery probe, and `Learns` when it allows `learn_local_switch`.

The core is what isolation and egress are about: the configuration, both ARP
caches, the learned console and its probe. Each function is proved once for the
weakest classes it needs, and every observation below is an instance.
-/

namespace Grid0Relay

open Lib Lib.Exec

/-! ## The core of the struct -/

/-- What `lan_play_init` fixes for a session. -/
structure Config where
  wifiMac : Mac
  wifiIp : Ip4
  wifiNetmask : Ip4
  wifiSubnet : Ip4
  wifiBroadcast : Ip4
  wifiSubnetKnown : Bool
  zerotierMac : Mac
  zerotierIp : Ip4
  zerotierNetmask : Ip4
  zerotierBroadcastIp : Ip4
  gatewayIp : Ip4
  subnetNet : Ip4
  subnetMask : Ip4
  arpTtl : Nat

def LanPlay.config (lp : LanPlay) : Config where
  wifiMac := lp.wifiMac
  wifiIp := lp.wifiIp
  wifiNetmask := lp.wifiNetmask
  wifiSubnet := lp.wifiSubnet
  wifiBroadcast := lp.wifiBroadcast
  wifiSubnetKnown := lp.wifiSubnetKnown
  zerotierMac := lp.zerotierMac
  zerotierIp := lp.zerotierIp
  zerotierNetmask := lp.zerotierNetmask
  zerotierBroadcastIp := lp.zerotierBroadcastIp
  gatewayIp := lp.packetCtx.ip
  subnetNet := lp.packetCtx.subnetNet
  subnetMask := lp.packetCtx.subnetMask
  arpTtl := lp.packetCtx.arpTtl

/-- The learned console. -/
structure Console where
  switchMac : Mac
  switchIp : Ip4
  switchSeen : Bool
  switchMacConfirmed : Bool

def LanPlay.console (lp : LanPlay) : Console :=
  ⟨lp.switchMac, lp.switchIp, lp.switchSeen, lp.switchMacConfirmed⟩

/-- The delivery probe, and the flag its source address depends on. -/
structure Probe where
  switchDhcp : Bool
  sent : Bool
  payload : Vector UInt8 16
  ip : Ip4
  mac : Mac

def LanPlay.probe (lp : LanPlay) : Probe :=
  ⟨lp.switchDhcp, lp.wifiDeliveryProbeSent, lp.wifiDeliveryProbePayload, lp.wifiDeliveryProbeIp,
    lp.wifiDeliveryProbeMac⟩

structure Core where
  config : Config
  console : Console
  probe : Probe
  arpList : ArpTable
  neighbors : NeighborCtx

def LanPlay.core (lp : LanPlay) : Core :=
  ⟨lp.config, lp.console, lp.probe, lp.packetCtx.arpList, lp.zerotierNeighbors⟩

/-- Where the search for a console is. -/
structure Sweep where
  host : UInt8
  pauseTicks : UInt16
  wifiPhase : Bool

def LanPlay.sweep (lp : LanPlay) : Sweep :=
  ⟨lp.switchDiscoveryHost, lp.switchDiscoveryPauseTicks, lp.switchDiscoveryWifiPhase⟩

/-- The part of the struct that relations look at. -/
def LanPlay.watched (lp : LanPlay) : Core × Sweep := (lp.core, lp.sweep)

theorem core_of_watched {lp lp' : LanPlay} (h : lp'.watched = lp.watched) : lp'.core = lp.core :=
  congrArg Prod.fst h

/-! ## Classes of relations -/

/-- `R` looks at nothing but the core, the sweep and the log. -/
class Quiet (R : World → World → Prop) : Prop extends Std.Refl R, IsTrans World R where
  quiet : ∀ {w w' : World}, w'.lp.watched = w.lp.watched → w'.sent = w.sent → R w w'

/-- `R` does not look at the sweep. -/
class Sweeps (R : World → World → Prop) : Prop where
  sweep : ∀ {w w' : World}, w'.lp.core = w.lp.core → w'.sent = w.sent → R w w'

/-- `R` allows a frame on Wi-Fi. -/
class OnWifi (R : World → World → Prop) : Prop extends Quiet R where
  wifi : ∀ w frame, R w { w with sent := w.sent ++ [⟨.wifi, frame⟩] }

/-- `R` allows an ARP frame on ZeroTier. -/
class Local (R : World → World → Prop) : Prop extends OnWifi R where
  arp : ∀ w frame, Frame.etherType frame = etherTypeArp →
    R w { w with sent := w.sent ++ [⟨.zerotier, frame⟩] }

/-- `R` allows any frame. -/
class Free (R : World → World → Prop) : Prop extends Local R where
  overlay : ∀ w frame, R w { w with sent := w.sent ++ [⟨.zerotier, frame⟩] }

/-- `R` does not look at one of the ARP caches. -/
class IgnoresArp (self : Ctx) (R : World → World → Prop) : Prop where
  arp : ∀ (w : World) (list : ArpTable), R w { w with lp := w.lp.setArpList self list }

theorem set_step {R : World → World → Prop} (self : Ctx) [IgnoresArp self R] (w : World)
    (list : ArpTable) : R w { w with lp := w.lp.setArpList self list } := IgnoresArp.arp w list

/-- `R` allows the probe of a console. -/
class Probes (R : World → World → Prop) : Prop where
  probe : ∀ (env : Env) (w : World), w.lp.switchSeen → ¬ w.lp.wifiDeliveryProbeSent →
    R w (w.probe env)

/-- `R` allows a call of `learn_local_switch`. -/
class Learns (R : World → World → Prop) : Prop where
  learn : ∀ (env : Env) (frame : Bytes), Steps R (learnLocalSwitch env frame)

/-- The log grew by frames satisfying `ok`. -/
def Emits (ok : Injection → Prop) (w w' : World) : Prop :=
  ∃ frames, w'.sent = w.sent ++ frames ∧ ∀ frame ∈ frames, ok frame

instance (ok : Injection → Prop) : Quiet (Emits ok) where
  refl _ := ⟨[], by simp⟩
  trans := by
    rintro a b c ⟨first, hfirst, hfirstOk⟩ ⟨second, hsecond, hsecondOk⟩
    refine ⟨first ++ second, by rw [hsecond, hfirst, List.append_assoc], ?_⟩
    intro frame hframe
    rcases List.mem_append.mp hframe with h | h
    · exact hfirstOk frame h
    · exact hsecondOk frame h
  quiet _ hsent := ⟨[], by simp [hsent]⟩

instance (self : Ctx) (ok : Injection → Prop) : IgnoresArp self (Emits ok) where
  arp _ _ := ⟨[], by simp⟩

theorem Emits.mono {ok ok' : Injection → Prop} {w w' : World} (h : Emits ok w w')
    (imp : ∀ i, ok i → ok' i) : Emits ok' w w' := by
  obtain ⟨frames, hsent, hok⟩ := h
  exact ⟨frames, hsent, fun frame hframe => imp frame (hok frame hframe)⟩

/-- An IPv4 frame on the overlay. -/
def OverlayIpv4 (i : Injection) : Prop :=
  i.iface = .zerotier ∧ Frame.etherType i.frame = etherTypeIpv4
deriving Decidable

instance : OnWifi (Emits fun i => i.iface = .wifi) where
  wifi _ _ := ⟨_, rfl, by simp⟩

instance : Local (Emits fun i => ¬ OverlayIpv4 i) where
  wifi _ _ := ⟨_, rfl, by simp [OverlayIpv4]⟩
  arp _ _ h := ⟨_, rfl, by simp [OverlayIpv4, h, etherTypeArp, etherTypeIpv4]⟩

instance : Free (Emits fun _ => True) where
  wifi _ _ := ⟨_, rfl, by simp⟩
  arp _ _ _ := ⟨_, rfl, by simp⟩
  overlay _ _ := ⟨_, rfl, by simp⟩

instance (ok : Injection → Prop) [OnWifi (Emits ok)] : Probes (Emits ok) where
  probe env w _ _ :=
    (OnWifi.wifi w (probeFrame w.lp (probePayload (env.hrtime w.asked))) : Emits ok w _)

/-- An observation of the core. -/
instance {β : Type} (f : Core → β) : Free (Same fun w : World => f w.lp.core) where
  refl _ := rfl
  trans _ _ _ h h' := Eq.trans h' h
  quiet h _ := congrArg f (core_of_watched h)
  wifi _ _ := rfl
  arp _ _ _ := rfl
  overlay _ _ := rfl

instance {β : Type} (f : Core → β) : Sweeps (Same fun w : World => f w.lp.core) where
  sweep h _ := congrArg f h

/-- The sweep itself. -/
instance : Free (Same fun w : World => w.lp.sweep) where
  refl _ := rfl
  trans _ _ _ h h' := Eq.trans h' h
  quiet h _ := congrArg Prod.snd h
  wifi _ _ := rfl
  arp _ _ _ := rfl
  overlay _ _ := rfl

instance (self : Ctx) : IgnoresArp self (Same fun w : World => w.lp.sweep) where
  arp _ _ := by cases self <;> rfl

instance : Probes (Same fun w : World => w.lp.sweep) where
  probe _ _ _ _ := rfl

instance (self : Ctx) : IgnoresArp self (Same fun w : World => w.lp.core.config) where
  arp _ _ := by cases self <;> rfl

instance : Probes (Same fun w : World => w.lp.core.config) where
  probe _ _ _ _ := rfl

instance : IgnoresArp .packetCtx (Same fun w : World => w.lp.core.neighbors) where
  arp _ _ := rfl

instance : Probes (Same fun w : World => w.lp.core.neighbors) where
  probe _ _ _ _ := rfl

/-- `P` survives. -/
def Preserves (P : Core → Prop) (w w' : World) : Prop := P w.lp.core → P w'.lp.core

instance (P : Core → Prop) : Free (Preserves P) where
  refl _ h := h
  trans _ _ _ h h' := fun hp => h' (h hp)
  quiet h _ := fun hp => core_of_watched h ▸ hp
  wifi _ _ := id
  arp _ _ _ := id
  overlay _ _ := id

instance (P : Core → Prop) : Sweeps (Preserves P) where
  sweep h _ := fun hp => h ▸ hp

/-! ## Primitives -/

theorem steps_modifySweep {R : World → World → Prop} [Sweeps R] {f : LanPlay → LanPlay}
    (h : ∀ lp, (f lp).core = lp.core) : Steps R (modifyLp f) := fun w => Sweeps.sweep (h w.lp) rfl

variable (env : Env)

section Quiet

variable {R : World → World → Prop} [Quiet R]

@[simp] theorem steps_timeNull : Steps R (timeNull env) :=
  fun _ => Quiet.quiet rfl rfl

@[simp] theorem steps_ask {α : Type} (answer : Nat → α) : Steps R (ask answer) :=
  fun _ => Quiet.quiet rfl rfl

theorem steps_modifyLp {f : LanPlay → LanPlay} (h : ∀ lp, (f lp).watched = lp.watched) :
    Steps R (modifyLp f) := fun w => Quiet.quiet (h w.lp) rfl

theorem steps_modifyPacketCtx {f : PacketCtx → PacketCtx}
    (h : ∀ lp : LanPlay, { lp with packetCtx := f lp.packetCtx }.watched = lp.watched) :
    Steps R (modifyPacketCtx f) := fun w => Quiet.quiet (h w.lp) rfl

@[simp] theorem steps_arpHasIp (self : Ctx) (ip : Ip4) : Steps R (arpHasIp env self ip) := by
  simp [arpHasIp]

@[simp] theorem steps_gatherPayloads (buf : Bytes) (parts : List Payload) :
    Steps R (gatherPayloads buf parts) := by
  induction parts generalizing buf with
  | nil => simp [gatherPayloads]
  | cons part rest ih => simp [gatherPayloads, ih]

@[simp] theorem steps_processUdp (frame : Bytes) : Steps R (processUdp frame) := by
  have hlog : ∀ send : UdpSend, Steps R
      (modify fun w : World => { w with proxied := w.proxied ++ [send] } : RelayM PUnit) :=
    fun send w => Quiet.quiet rfl rfl
  unfold processUdp
  refine steps_bind (by simp) fun verLen => steps_when fun _ => ?_
  refine steps_guard fun _ => steps_bind (by simp) fun protocol => ?_
  refine steps_guard fun _ => ?_
  refine steps_bind (by simp) fun src => steps_bind (by simp) fun dst => ?_
  refine steps_bind (by simp) fun srcport => steps_bind (by simp) fun dstport => ?_
  exact steps_bind (by simp) fun payload => steps_bind (hlog _) fun _ => steps_pure _

@[simp] theorem steps_arpSet (self : Ctx) [IgnoresArp self R] (mac : Mac) (ip : Ip4) :
    Steps R (arpSet env self mac ip) := by
  intro w
  rw [arpSet_eq, after_ok]
  refine IsTrans.trans _ _ _ (set_step self w
    (((w.lp.arpList self).set mac ip (env.clock w.readings) (w.lp.arpTtl self)).getD
      (w.lp.arpList self))) ?_
  exact Quiet.quiet rfl rfl

@[simp] theorem steps_printPacket (frame : Bytes) : Steps R (printPacket frame) :=
  steps_bind (steps_readRange _ _ _) fun _ => steps_pure _

end Quiet

/-! ## Frames on Wi-Fi -/

section OnWifi

variable {R : World → World → Prop} [OnWifi R]

@[simp] theorem steps_sendWifi (frame : Bytes) : Steps R (uvPcapSendpacket env .wifi frame) := by
  intro w
  refine IsTrans.trans _ _ _ (OnWifi.wifi w frame) ?_
  exact Quiet.quiet rfl rfl

@[simp] theorem steps_lanPlaySendPacket (data : Bytes) : Steps R (lanPlaySendPacket env data) := by
  have hcount : Steps R (modifyLp fun lp => { lp with wifiTx := lp.wifiTx + 1 }) :=
    steps_modifyLp fun _ => rfl
  simp [lanPlaySendPacket, hcount]

@[simp] theorem steps_lanPlaySendWifiIpv4 (dstMac : Mac) (ip : Payload) :
    Steps R (lanPlaySendWifiIpv4 env dstMac ip) := by
  refine steps_guard fun _ => ?_
  exact steps_bind steps_getLp fun lp => steps_bind (steps_copyRange _ _ _ _) fun body =>
    steps_lanPlaySendPacket env _

@[simp] theorem steps_sendEther (dst : Mac) (type : Nat) (parts : List Payload) :
    Steps R (sendEther env dst type parts) := by
  have hcount : ∀ n : UInt64, Steps R (modifyPacketCtx fun c =>
      { c with uploadPacket := c.uploadPacket + 1, uploadByte := c.uploadByte + n }) :=
    fun n => steps_modifyPacketCtx fun _ => rfl
  refine steps_bind steps_getLp fun lp => steps_bind (steps_gatherPayloads _ _) fun buf => ?_
  exact steps_bind (hcount _) fun _ => steps_lanPlaySendPacket env buf

@[simp] theorem steps_sendArpEx (dstMac : Mac) (opcode : Nat) (senderMac : Mac)
    (senderIp : Ip4) (targetMac : Mac) (targetIp : Ip4) :
    Steps R (sendArpEx env dstMac opcode senderMac senderIp targetMac targetIp) := by
  simp [sendArpEx]

@[simp] theorem steps_arpGetMacByIp (self : Ctx) (ip : Ip4) :
    Steps R (arpGetMacByIp env self ip) := by
  have hrequest : Steps R (sendArpRequest env self ip) := by
    cases self <;> simp [sendArpRequest]
  simp only [arpGetMacByIp]
  refine steps_bind (steps_timeNull env) fun now => steps_bind steps_getLp fun lp => ?_
  split
  · exact steps_pure _
  · exact steps_bind hrequest fun _ => steps_pure _

@[simp] theorem steps_lanPlayGatewaySendPacket (data : Bytes) :
    Steps R (lanPlayGatewaySendPacket env data) := by
  simp only [lanPlayGatewaySendPacket]
  refine steps_bind (steps_readIp4 _ _) fun dst => steps_bind (steps_arpGetMacByIp _ _ _) ?_
  intro found
  cases found <;> simp

@[simp] theorem steps_gatewayOutput (output : List LwipPacket) :
    Steps R (gatewayOutput env output) := by
  induction output with
  | nil => simp [gatewayOutput]
  | cons packet rest ih => simp [gatewayOutput, ih]

@[simp] theorem steps_gatewayOnPacket (frame : Bytes) : Steps R (gatewayOnPacket env frame) := by
  refine steps_bind (steps_processUdp frame) fun handled => ?_
  refine steps_guard fun _ => ?_
  exact steps_bind (steps_readRange _ _ _) fun input => steps_bind (steps_ask _) fun output =>
    steps_gatewayOutput env output

@[simp] theorem steps_sendIpv4Ex (src dst : Ip4) (protocol : UInt8)
    (parts : List Payload) : Steps R (sendIpv4Ex env src dst protocol parts) := by
  have hcount : Steps R (modifyPacketCtx fun c =>
      { c with identification := c.identification + 1 }) :=
    steps_modifyPacketCtx fun _ => rfl
  simp only [sendIpv4Ex]
  refine steps_bind steps_getLp fun lp => steps_bind hcount fun _ =>
    steps_bind (steps_arpGetMacByIp _ _ _) fun found => ?_
  cases found <;> simp

@[simp] theorem steps_processIcmp (frame : Bytes) (ipv4 : Ipv4) :
    Steps R (processIcmp env frame ipv4) := by
  refine steps_ite (fun _ => steps_throw _) fun _ => ?_
  refine steps_bind (steps_copyRange _ _ _ _) fun data => steps_bind (by simp) fun payload => ?_
  refine steps_bind (by simp) fun payload => steps_bind (by simp) fun payload => ?_
  exact steps_bind (steps_bind steps_getLp fun lp => steps_sendIpv4Ex env _ _ _ _) fun _ =>
    steps_pure _

end OnWifi

/-! ## ARP on ZeroTier -/

section Local

variable {R : World → World → Prop} [Local R]

theorem steps_zerotierTransmit_arp (frame : Bytes)
    (h : Frame.etherType frame = etherTypeArp) : Steps R (zerotierTransmit env frame) := by
  have hcount : Steps R (modifyLp fun lp => { lp with zerotierTx := lp.zerotierTx + 1 }) :=
    steps_modifyLp fun _ => rfl
  have hsend : Steps R (uvPcapSendpacket env .zerotier frame) := by
    intro w
    refine IsTrans.trans _ _ _ (Local.arp w frame h) ?_
    exact Quiet.quiet rfl rfl
  simp [zerotierTransmit, hcount, hsend]

@[simp] theorem steps_lanPlaySendZerotierArp (senderIp targetIp : Ip4) :
    Steps R (lanPlaySendZerotierArp env senderIp targetIp) :=
  steps_bind steps_getLp fun _ => steps_zerotierTransmit_arp env _
    (etherType_etherHeader _ _ _ _ (by decide))

@[simp] theorem steps_lanPlaySendZerotierArpReply (targetMac : Mac) (targetIp senderIp : Ip4) :
    Steps R (lanPlaySendZerotierArpReply env targetMac targetIp senderIp) :=
  steps_bind steps_getLp fun _ => steps_zerotierTransmit_arp env _
    (etherType_etherHeader _ _ _ _ (by decide))

@[simp] theorem steps_arpRequest (arp : Arp) : Steps R (arpRequest env arp) := by
  refine steps_bind steps_getLp fun lp => steps_when fun _ => ?_
  refine steps_guard fun _ => ?_
  refine steps_guard fun _ => ?_
  refine steps_ite (fun _ => by simp) fun _ => ?_
  exact steps_bind (by simp) fun known => steps_bind (by simp) fun _ => steps_sendArpEx _ _ _ _ _ _ _

@[simp] theorem steps_dispatchArp (arp : Arp) : Steps R (dispatchArp env arp) := by
  simp [dispatchArp]

@[simp] theorem steps_processArp [IgnoresArp .packetCtx R] (frame : Bytes) :
    Steps R (processArp env frame) := by
  refine steps_bind (reads_parseArp frame).steps fun arp => ?_
  refine steps_guard fun _ => ?_
  exact steps_bind (steps_arpSet _ _ _ _) fun _ => steps_dispatchArp env arp

end Local

/-! ## IPv4 on ZeroTier -/

section Free

variable {R : World → World → Prop} [Free R]

@[simp] theorem steps_zerotierTransmit (frame : Bytes) : Steps R (zerotierTransmit env frame) := by
  have hcount : Steps R (modifyLp fun lp => { lp with zerotierTx := lp.zerotierTx + 1 }) :=
    steps_modifyLp fun _ => rfl
  have hsend : Steps R (uvPcapSendpacket env .zerotier frame) := by
    intro w
    refine IsTrans.trans _ _ _ (Free.overlay w frame) ?_
    exact Quiet.quiet rfl rfl
  simp [zerotierTransmit, hcount, hsend]

@[simp] theorem steps_lanPlaySendZerotierIpv4Broadcast (packet : Payload) :
    Steps R (lanPlaySendZerotierIpv4Broadcast env packet) := by
  refine steps_guard fun _ => ?_
  exact steps_bind steps_getLp fun lp => steps_bind (steps_copyRange _ _ _ _) fun body =>
    steps_zerotierTransmit env _

@[simp] theorem steps_lanPlaySendZerotierIpv4 (dst : Ip4) (packet : Payload) :
    Steps R (lanPlaySendZerotierIpv4 env dst packet) := by
  refine steps_guard fun _ => ?_
  refine steps_bind (steps_arpHasIp _ _ _) fun known => steps_bind (by simp) fun found => ?_
  refine steps_bind steps_getLp fun lp => ?_
  cases found with
  | none => simp
  | some mac => simp

@[simp] theorem steps_forwardFromZerotier (dst : Ip4) (packet : Payload) :
    Steps R (forwardFromZerotier env dst packet) := by
  refine steps_bind (steps_arpHasIp _ _ _) fun known => ?_
  refine steps_ite (fun _ => ?_) fun _ => steps_lanPlaySendZerotierIpv4 _ _ _
  refine steps_bind (steps_arpGetMacByIp _ _ _) fun found => ?_
  cases found with
  | none => exact steps_bind (steps_ask _) fun _ => steps_sendEther _ _ _ _
  | some mac => exact steps_bind (steps_pure _) fun _ => steps_sendEther _ _ _ _

@[simp] theorem steps_dispatchIpv4 (frame : Bytes) (ipv4 : Ipv4) (etherDst : Mac) :
    Steps R (dispatchIpv4 env frame ipv4 etherDst) := by
  refine steps_bind steps_getLp fun lp => steps_ite (fun _ => by simp) fun _ => ?_
  refine steps_ite (fun _ => by simp) fun _ => steps_ite (fun _ => ?_) fun _ => by simp
  refine steps_ite (fun _ => by simp [lanClientSendIpv4]) fun _ => ?_
  exact steps_ite (fun _ => by simp [lanClientSendIpv4]) fun _ => steps_forwardFromZerotier _ _ _

variable [IgnoresArp .packetCtx R]

@[simp] theorem steps_processIpv4 (frame : Bytes) : Steps R (processIpv4 env frame) := by
  refine steps_bind (reads_parseIpv4Header frame).steps fun ipv4 => ?_
  refine steps_bind (steps_readMac _ _) fun src => steps_bind (steps_readMac _ _) fun dst => ?_
  exact steps_bind (steps_arpSet _ _ _ _) fun _ => steps_dispatchIpv4 env frame ipv4 dst

@[simp] theorem steps_getPacket (frame : Bytes) : Steps R (getPacket env frame) := by
  have hcount : Steps R (modifyPacketCtx fun c =>
      { c with
        downloadPacket := c.downloadPacket + 1
        downloadByte := c.downloadByte + UInt64.ofNat frame.length }) :=
    steps_modifyPacketCtx fun _ => rfl
  have hether : Steps R (processEther env frame) := by
    refine steps_bind (steps_readMac _ _) fun dst => steps_bind (steps_readMac _ _) fun src => ?_
    refine steps_bind (steps_readNet16 _ _) fun type => steps_bind steps_getLp fun lp => ?_
    refine steps_guard fun _ => ?_
    refine steps_ite (fun _ => steps_processArp _ _) fun _ => ?_
    exact steps_ite (fun _ => steps_processIpv4 _ _) fun _ => steps_pure _
  refine steps_ite (fun _ => steps_printPacket frame) fun _ => ?_
  exact steps_bind hcount fun _ => steps_bind hether fun ret => by simp

end Free

/-! ## The DHCP server -/

section Dhcp

variable {R : World → World → Prop}

theorem steps_modifyDhcp [Quiet R] (f : DhcpServerState → DhcpServerState) :
    Steps R (modifyDhcp f) := steps_modifyLp fun _ => rfl

@[simp] theorem steps_dhcpPickPool [Quiet R] (now : Nat) (net bcast gw self : UInt32)
    (fuel : Nat) (cand : UInt32) : Steps R (dhcpPickPool env now net bcast gw self fuel cand) := by
  induction fuel generalizing cand with
  | zero => simp [dhcpPickPool]
  | succ fuel ih =>
    refine steps_when fun _ => ?_
    refine steps_bind steps_getLp fun lp => steps_ite (fun _ => ih _) fun _ => ?_
    refine steps_bind (steps_arpHasIp _ _ _) fun known => ?_
    exact steps_ite (fun _ => ih _) fun _ => steps_pure _

@[simp] theorem steps_dhcpPickIp [Quiet R] (mac : Mac) : Steps R (dhcpPickIp env mac) := by
  simp only [dhcpPickIp]
  refine steps_bind (steps_timeNull _) fun now => steps_bind steps_getLp fun lp => ?_
  split
  · exact steps_pure _
  · refine steps_bind (by simp) fun known => ?_
    exact steps_guard fun _ => steps_dhcpPickPool _ _ _ _ _ _ _ _

@[simp] theorem steps_dhcpClaim [Quiet R] (mac : Mac) (ip : Ip4) (offered : Bool) :
    Steps R (dhcpClaim env mac ip offered) := by
  simp only [dhcpClaim]
  refine steps_bind (steps_timeNull _) fun now => steps_bind steps_getLp fun lp => ?_
  split
  · exact steps_pure _
  · exact steps_bind (steps_modifyDhcp _) fun _ => steps_pure _

variable [OnWifi R]

@[simp] theorem steps_dhcpSendReply (dstMac : Mac) (req : DhcpRequest)
    (msgType : UInt8) (yiaddr : Ip4) : Steps R (dhcpSendReply env dstMac req msgType yiaddr) := by
  have hid : Steps R (modify fun w : World => { w with dhcpIpId := w.dhcpIpId + 1 } :
      RelayM PUnit) := fun _ => Quiet.quiet rfl rfl
  exact steps_bind hid fun _ => steps_bind steps_get fun w => steps_lanPlaySendWifiIpv4 _ _ _

@[simp] theorem steps_dhcpHandle (mac : Mac) (req : DhcpRequest) :
    Steps R (dhcpHandle env mac req) := by
  have hdiscover : Steps R (dhcpDiscover env mac req) := by
    refine steps_bind (steps_dhcpPickIp _ _) fun picked => ?_
    cases picked with
    | none => exact steps_pure _
    | some ip =>
      refine steps_bind (steps_dhcpClaim _ _ _ _) fun claimed => ?_
      refine steps_when fun _ => ?_
      refine steps_bind (steps_dhcpSendReply _ _ _ _ _) fun ret => ?_
      exact steps_ite (fun _ => steps_modifyDhcp _) fun _ => steps_pure _
  have hrequested : Steps R (dhcpRequested env mac req) := by
    simp only [dhcpRequested]
    refine steps_bind (steps_map steps_getLp) fun found => ?_
    refine steps_bind (steps_timeNull _) fun now => steps_bind steps_getLp fun lp => ?_
    split
    · refine steps_bind (steps_dhcpClaim _ _ _ _) fun _ => ?_
      refine steps_bind (steps_dhcpSendReply _ _ _ _ _) fun ret => ?_
      exact steps_ite (fun _ => steps_modifyDhcp _) fun _ => steps_pure _
    · refine steps_ite (fun _ => ?_) fun _ =>
        steps_ite (fun _ => steps_modifyDhcp _) fun _ => steps_pure _
      refine steps_bind (steps_dhcpSendReply _ _ _ _ _) fun ret => ?_
      exact steps_ite (fun _ => steps_modifyDhcp _) fun _ => steps_pure _
  refine steps_ite (fun _ => steps_modifyDhcp _) fun _ => ?_
  refine steps_ite (fun _ => hdiscover) fun _ => steps_ite (fun _ => hrequested) fun _ => ?_
  exact steps_ite (fun _ => steps_modifyDhcp _) fun _ => steps_pure _

@[simp] theorem steps_dhcpServerConsume (frame : Bytes) :
    Steps R (dhcpServerConsume env frame) := by
  refine steps_bind steps_getLp fun lp => steps_guard fun _ => ?_
  refine steps_bind (reads_dhcpParse _).steps fun parsed => ?_
  cases parsed with
  | none => exact steps_pure _
  | some req =>
    refine steps_bind ?_ fun _ => steps_pure _
    refine steps_bind (steps_timeNull _) fun now => steps_bind (steps_modifyDhcp _) fun _ => ?_
    exact steps_bind (steps_readMac _ _) fun mac => steps_dhcpHandle _ _ _

end Dhcp

/-! ## The console -/

section Learn

variable {R : World → World → Prop}

@[simp] theorem steps_learnLocalSwitch [Learns R] (frame : Bytes) :
    Steps R (learnLocalSwitch env frame) := Learns.learn env frame

variable [OnWifi R]

@[simp] theorem steps_consumeWifiDeliveryReply (frame : Bytes) :
    Steps R (consumeWifiDeliveryReply frame) := by
  intro w
  rw [consumeWifiDeliveryReply_eq]
  split
  · exact Quiet.quiet rfl rfl
  · exact refl w

/-- A relation allows `learn_local_switch` once it allows the console to be set. -/
theorem Learns.of_switch [IgnoresArp .packetCtx R] [Probes R]
    (switch : ∀ (w : World) (frame : Bytes) (dhcp : Bool),
      R w { w with lp := { w.lp.withSwitch frame with switchDhcp := dhcp } }) : Learns R where
  learn env frame := by
    intro w
    obtain ⟨learned, w', hrun, hlearned⟩ := learnLocalSwitch_learned env frame w
    rw [hrun, after_ok]
    cases hlearned with
    | rejected _ => exact refl w
    | conflict _ _ _ _ _ => exact Quiet.quiet rfl rfl
    | again _ _ _ _ => exact switch w frame w.lp.switchDhcp
    | adopted _ _ =>
      -- the console, its cache entry, a flag outside the core, then the probe
      have hcache := steps_arpSet (R := R) env .packetCtx (Frame.etherSrc frame) (senderIp frame)
        { w with lp := { w.lp.withSwitch frame with
          switchDhcp := dhcpCandidate w.lp (senderIp frame) } }
      rw [arpSet_eq, after_ok] at hcache
      have henlist : R w (w.enlist env frame) := by
        refine IsTrans.trans _ _ _ (switch w frame _) (IsTrans.trans _ _ _ hcache ?_)
        exact Quiet.quiet rfl rfl
      unfold World.adopt
      split
      · exact henlist
      · rename_i hsent
        exact IsTrans.trans _ _ _ henlist (Probes.probe env _ rfl hsent)

instance : Learns (Same fun w : World => w.lp.core.config) := .of_switch fun _ _ _ => rfl

instance : Learns (Same fun w : World => w.lp.core.neighbors) := .of_switch fun _ _ _ => rfl

instance : Learns (Same fun w : World => w.lp.sweep) := .of_switch fun _ _ _ => rfl

end Learn

/-! ## The relay functions -/

section Relay

variable {R : World → World → Prop}

@[simp] theorem steps_nativeUdpGuardReserve [Quiet R] (port : Nat) :
    Steps R (nativeUdpGuardReserve env port) := by
  have hopen : ∀ guard, Steps R (modifyLp fun lp => { lp with udpGuard := some guard }) :=
    fun guard => steps_modifyLp fun _ => rfl
  refine steps_bind steps_getLp fun lp => ?_
  split
  · exact steps_pure _
  · refine steps_guard fun _ => steps_guard fun _ => ?_
    refine steps_guard fun _ => steps_bind (steps_ask _) fun alloc => ?_
    refine steps_guard fun _ => steps_bind (steps_ask _) fun ret => ?_
    refine steps_guard fun _ => steps_bind (steps_ask _) fun ret => ?_
    refine steps_bind (by simp) fun ret => steps_guard fun _ => ?_
    exact steps_bind (hopen _) fun _ => steps_pure _

@[simp] theorem steps_lanPlayRelayWifiIpv4 [Free R] (frame : Bytes) :
    Steps R (lanPlayRelayWifiIpv4 env frame) := by
  have hwarn : ∀ n hl src dst, Steps R (warnBroadcastMismatch frame n hl src dst) := by
    intro n hl src dst
    refine steps_bind steps_getLp fun _ => steps_bind (by simp) fun _ => ?_
    refine steps_bind (by simp) fun _ => steps_when fun _ => ?_
    refine steps_bind (by simp) fun _ => steps_when fun _ => ?_
    exact steps_modifyLp fun _ => rfl
  have hforward : ∀ lp, Steps R (forward env frame lp) := by
    intro lp
    refine steps_bind (hwarn _ _ _ _) fun _ => steps_bind (by simp [reserveFor]) fun ret => ?_
    refine steps_guard fun _ => ?_
    exact steps_bind (by simp [sendOverlay]) fun _ => steps_pure _
  intro w
  rw [lanPlayRelayWifiIpv4_eq]
  split_ifs
  · exact refl w
  · exact hforward w.lp w
  · exact refl w
  · exact refl w

theorem overlayIpv4_zerotierFrame (lp : LanPlay) (mac : Mac) (ip : Bytes) :
    OverlayIpv4 ⟨.zerotier, zerotierFrame lp mac ip⟩ :=
  ⟨rfl, etherType_etherHeader _ _ _ _ (by decide)⟩

theorem not_overlayIpv4_arp (lp : LanPlay) (sender target : Ip4) :
    ¬ OverlayIpv4 ⟨.zerotier, zerotierArpFrame lp sender target⟩ := by
  intro h
  have htype : Frame.etherType (zerotierArpFrame lp sender target) = etherTypeArp :=
    etherType_etherHeader _ _ _ _ (by decide)
  exact absurd (htype.symm.trans h.2) (by decide)

/-- One packet, to whichever MAC the caches give. -/
def Carries (lp : LanPlay) (ip : Bytes) (frames : List Injection) : Prop :=
  ∃ mac, frames = [⟨.zerotier, zerotierFrame lp mac ip⟩]

/-- Besides an ARP request there is one frame, which carries the packet. -/
theorem overlayFrames_carries {env : Env} {w : World} {broadcast : Bool} {dst : Ip4} {ip : Bytes}
    {frames : List Injection} (h : overlayFrames env w broadcast dst ip = some frames) :
    Carries w.lp ip (frames.filter fun i => OverlayIpv4 i) := by
  unfold overlayFrames at h
  split_ifs at h
  · obtain rfl : _ = frames := Option.some.inj h
    exact ⟨broadcastMac, by simp [overlayIpv4_zerotierFrame]⟩
  · split at h
    · obtain rfl : _ = frames := Option.some.inj h
      exact ⟨broadcastMac, by simp [overlayIpv4_zerotierFrame, not_overlayIpv4_arp]⟩
    · split at h
      · simp at h
      · rename_i peer _
        obtain rfl : _ = frames := Option.some.inj h
        exact ⟨peer.mac, by simp [overlayIpv4_zerotierFrame]⟩

theorem overlayFrames_ipv4 {env : Env} {w : World} {broadcast : Bool} {dst : Ip4} {ip : Bytes}
    {frames : List Injection} (h : overlayFrames env w broadcast dst ip = some frames)
    {i : Injection} (hi : i ∈ frames) (hip : OverlayIpv4 i) :
    ∃ mac, i = ⟨.zerotier, zerotierFrame w.lp mac ip⟩ := by
  obtain ⟨mac, hmac⟩ := overlayFrames_carries h
  have hmem : i ∈ frames.filter fun i => OverlayIpv4 i := List.mem_filter.mpr ⟨hi, by simpa using hip⟩
  rw [hmac] at hmem
  exact ⟨mac, List.mem_singleton.mp hmem⟩

/-- What `lan_play_relay_wifi_ipv4` puts on the overlay: nothing, or a forwarded
packet. -/
theorem relayWifi_frames (frame : Bytes) (w : World) :
    ∃ frames, (after (lanPlayRelayWifiIpv4 env frame w)).sent = w.sent ++ frames ∧
      (frames = [] ∨ Forwardable w.lp frame ∧ EndpointPossible w.lp frame ∧
        forwardedFrames env w frame = some frames) := by
  by_cases h : Forwardable w.lp frame
  · rcases relay_emits env h with hsent | ⟨frames, hframes, hready, hsent⟩
    · exact ⟨[], by rw [hsent, List.append_nil], Or.inl rfl⟩
    · exact ⟨frames, hsent, Or.inr ⟨h, hready, hframes⟩⟩
  · refine ⟨[], ?_, Or.inl rfl⟩
    rw [lanPlayRelayWifiIpv4_eq, List.append_nil]
    split_ifs with hfor hun hrw
    · rfl
    · exact absurd ⟨hfor, hun, hrw⟩ h
    · rfl
    · rfl

@[simp] theorem steps_lanPlayRelayZerotierIpv4 [OnWifi R] [Probes R] (frame : Bytes) :
    Steps R (lanPlayRelayZerotierIpv4 env frame) := by
  intro w
  by_cases h : Deliverable w.lp frame
  · rw [lanPlayRelayZerotierIpv4_delivered env frame w h, after_ok]
    have hsend : ∀ warned, R w ({ w with
        lp := { w.lp with warnedDirectSwitchDelivery := warned } }.sendWifi
          (deliveredFrame w.lp frame)) := by
      intro warned
      refine IsTrans.trans _ _ _ (OnWifi.wifi w (deliveredFrame w.lp frame)) ?_
      exact Quiet.quiet rfl rfl
    unfold World.deliver
    split
    · rename_i hprobe
      exact IsTrans.trans _ _ _ (hsend _) (Probes.probe env _ h.1 hprobe.2.2.2)
    · exact hsend _
  · obtain ⟨warned, hrun⟩ := lanPlayRelayZerotierIpv4_declined env frame w h
    rw [hrun, after_ok]
    exact Quiet.quiet rfl rfl

end Relay

end Grid0Relay
