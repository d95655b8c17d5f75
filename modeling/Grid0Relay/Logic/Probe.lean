import Grid0Relay.Logic.Egress
import Grid0Relay.Logic.Reach

/-!
# The delivery probe over a session

`consume_wifi_delivery_reply` does not keep the address it expects a reply at: it
works the address out again from `switch_dhcp`. What keeps it the same is that the
flag is a function of the console's address and the configuration from the moment a
console is seen, and that a console is probed the moment it is seen.
-/

namespace Grid0Relay

open Lib Lib.Exec

/-- What `consume_wifi_delivery_reply` compares a frame with. -/
structure Awaited where
  wifiMac : Mac
  mac : Mac
  ip : Ip4
  source : Ip4
  payload : Vector UInt8 16

def LanPlay.awaited (lp : LanPlay) : Awaited :=
  ⟨lp.wifiMac, lp.wifiDeliveryProbeMac, lp.wifiDeliveryProbeIp, probeSource lp,
    lp.wifiDeliveryProbePayload⟩

/-- The echo request whose reply is awaited. -/
def Awaited.request (a : Awaited) : Bytes :=
  etherHeader a.mac a.wifiMac etherTypeIpv4 ++ translate (probePacket a.payload) a.source a.ip

/-- The request is the frame `probe_wifi_delivery` sends. -/
theorem request_probe (env : Env) (w : World) :
    (w.probe env).sent = w.sent ++ [⟨.wifi, (w.probe env).lp.awaited.request⟩] := rfl

/-- A console is seen and probed at once. -/
def SeenProbed (lp : LanPlay) : Prop := lp.switchSeen = lp.wifiDeliveryProbeSent

/-- A console that was seen has been probed, at its address and from the source its
mode asks for. -/
structure ProbeOk (lp : LanPlay) : Prop where
  probed : SeenProbed lp
  ip : lp.switchSeen → lp.wifiDeliveryProbeIp = lp.switchIp
  dhcp : lp.switchSeen → lp.switchDhcp = dhcpCandidate lp lp.switchIp

/-- What a step does with the probe: it stays as it is, or the request of a new one is
among the frames sent. -/
structure Probed (w w' : World) : Prop where
  config : w'.lp.config = w.lp.config
  probed : SeenProbed w.lp → SeenProbed w'.lp
  ok : ProbeOk w.lp → ProbeOk w'.lp
  kept : ProbeOk w.lp → w.lp.wifiDeliveryProbeSent →
    w'.lp.wifiDeliveryProbeSent ∧ w'.lp.awaited = w.lp.awaited
  sends : ∃ frames, w'.sent = w.sent ++ frames ∧ (ProbeOk w.lp → ¬ w.lp.wifiDeliveryProbeSent →
    w'.lp.wifiDeliveryProbeSent → ⟨.wifi, w'.lp.awaited.request⟩ ∈ frames)

/-! ## The footprint -/

section Congr

variable {lp lp' : LanPlay}

theorem dhcpCandidate_congr (h : lp'.config = lp.config) (ip : Ip4) :
    dhcpCandidate lp' ip = dhcpCandidate lp ip := by
  have hknown : lp'.wifiSubnetKnown = _ := congrArg Config.wifiSubnetKnown h
  have hsubnet : lp'.wifiSubnet = _ := congrArg Config.wifiSubnet h
  have hmask : lp'.wifiNetmask = _ := congrArg Config.wifiNetmask h
  rw [dhcpCandidate, dhcpCandidate, isZerotierDestination_congr h, wifiDest, wifiDest, hknown,
    hsubnet, hmask]
  rfl

theorem SeenProbed.congr (hconsole : lp'.console = lp.console) (hprobe : lp'.probe = lp.probe)
    (h : SeenProbed lp) : SeenProbed lp' := by
  have hseen : lp'.switchSeen = lp.switchSeen := congrArg Console.switchSeen hconsole
  have hsent : lp'.wifiDeliveryProbeSent = lp.wifiDeliveryProbeSent := congrArg Probe.sent hprobe
  rw [SeenProbed, hseen, hsent, h]

variable (hconfig : lp'.config = lp.config) (hprobe : lp'.probe = lp.probe)

include hconfig hprobe

theorem awaited_congr : lp'.awaited = lp.awaited := by
  have hwifiMac : lp'.wifiMac = lp.wifiMac := congrArg Config.wifiMac hconfig
  have hwifiIp : lp'.wifiIp = lp.wifiIp := congrArg Config.wifiIp hconfig
  have hgateway : lp'.packetCtx.ip = lp.packetCtx.ip := congrArg Config.gatewayIp hconfig
  have hdhcp : lp'.switchDhcp = lp.switchDhcp := congrArg Probe.switchDhcp hprobe
  have hmac : lp'.wifiDeliveryProbeMac = lp.wifiDeliveryProbeMac := congrArg Probe.mac hprobe
  have hip : lp'.wifiDeliveryProbeIp = lp.wifiDeliveryProbeIp := congrArg Probe.ip hprobe
  have hpayload : lp'.wifiDeliveryProbePayload = lp.wifiDeliveryProbePayload :=
    congrArg Probe.payload hprobe
  rw [LanPlay.awaited, LanPlay.awaited, probeSource, probeSource, hwifiMac, hwifiIp, hgateway,
    hdhcp, hmac, hip, hpayload]

theorem ProbeOk.congr (hconsole : lp'.console = lp.console) (h : ProbeOk lp) : ProbeOk lp' := by
  have hseen : lp'.switchSeen = lp.switchSeen := congrArg Console.switchSeen hconsole
  have hswitch : lp'.switchIp = lp.switchIp := congrArg Console.switchIp hconsole
  have hip : lp'.wifiDeliveryProbeIp = lp.wifiDeliveryProbeIp := congrArg Probe.ip hprobe
  have hdhcp : lp'.switchDhcp = lp.switchDhcp := congrArg Probe.switchDhcp hprobe
  refine ⟨h.probed.congr hconsole hprobe, fun seen => ?_, fun seen => ?_⟩
  · rw [hip, hswitch, h.ip (hseen ▸ seen)]
  · rw [hdhcp, hswitch, dhcpCandidate_congr hconfig, h.dhcp (hseen ▸ seen)]

end Congr

/-- A step that leaves the console and the probe alone. -/
theorem Probed.of_same {w w' : World} {frames : List Injection}
    (hconfig : w'.lp.config = w.lp.config) (hconsole : w'.lp.console = w.lp.console)
    (hprobe : w'.lp.probe = w.lp.probe) (hsent : w'.sent = w.sent ++ frames) : Probed w w' where
  config := hconfig
  probed := SeenProbed.congr hconsole hprobe
  ok := ProbeOk.congr hconfig hprobe hconsole
  kept _ sent := ⟨(congrArg Probe.sent hprobe).trans sent, awaited_congr hconfig hprobe⟩
  sends := ⟨frames, hsent, fun _ unsent sent =>
    absurd ((congrArg Probe.sent hprobe).symm.trans sent) unsent⟩

theorem Probed.of_core {w w' : World} (hcore : w'.lp.core = w.lp.core) (hsent : w'.sent = w.sent) :
    Probed w w' :=
  .of_same (congrArg Core.config hcore) (congrArg Core.console hcore) (congrArg Core.probe hcore)
    (hsent.trans (List.append_nil _).symm)

theorem Probed.trans {a b c : World} (h : Probed a b) (h' : Probed b c) : Probed a c where
  config := h'.config.trans h.config
  probed hseen := h'.probed (h.probed hseen)
  ok hok := h'.ok (h.ok hok)
  kept hok sent := by
    obtain ⟨hsent, hsame⟩ := h.kept hok sent
    obtain ⟨hsent', hsame'⟩ := h'.kept (h.ok hok) hsent
    exact ⟨hsent', hsame'.trans hsame⟩
  sends := by
    obtain ⟨first, hfirst, hnew⟩ := h.sends
    obtain ⟨second, hsecond, hnew'⟩ := h'.sends
    refine ⟨first ++ second, by rw [hsecond, hfirst, List.append_assoc], fun hok unsent sent => ?_⟩
    by_cases hmid : b.lp.wifiDeliveryProbeSent = true
    · -- sent by the first step, and awaited by the second
      rw [(h'.kept (h.ok hok) hmid).2]
      exact List.mem_append_left _ (hnew hok unsent hmid)
    · exact List.mem_append_right _ (hnew' (h.ok hok) hmid sent)

instance : Free Probed where
  refl _ := .of_same rfl rfl rfl (List.append_nil _).symm
  trans _ _ _ := Probed.trans
  quiet hwatched hsent := .of_core (core_of_watched hwatched) hsent
  wifi _ _ := .of_same rfl rfl rfl rfl
  arp _ _ _ := .of_same rfl rfl rfl rfl
  overlay _ _ := .of_same rfl rfl rfl rfl

instance : Sweeps Probed where
  sweep := .of_core

instance (self : Ctx) : IgnoresArp self Probed where
  arp w list := by
    cases self
    · exact .of_same rfl rfl rfl (List.append_nil _).symm
    · exact .of_same rfl rfl rfl (List.append_nil _).symm

/-- A console that was seen is not probed again. -/
instance : Probes Probed where
  probe env w seen unsent :=
    have hnever (h : SeenProbed w.lp) : False := unsent (h.symm.trans seen)
    { config := rfl
      probed := fun h => (hnever h).elim
      ok := fun h => (hnever h.probed).elim
      kept := fun h => (hnever h.probed).elim
      sends := ⟨_, request_probe env w, fun h => (hnever h.probed).elim⟩ }

/-! ## Learning -/

/-- The console's MAC is replaced. -/
theorem Probed.enlist {env : Env} {frame : Bytes} {w : World}
    (hsame : w.lp.switchSeen → senderIp frame = w.lp.switchIp)
    (hsent : w.lp.wifiDeliveryProbeSent) : Probed w (w.enlist env frame) where
  config := rfl
  probed _ := hsent.symm
  ok hok := by
    have seen : w.lp.switchSeen = true := hok.probed.trans hsent
    exact ⟨hsent.symm, fun _ => (hok.ip seen).trans (hsame seen).symm, fun _ => rfl⟩
  kept hok sent := by
    have seen : w.lp.switchSeen = true := hok.probed.trans sent
    have hdhcp : (w.enlist env frame).lp.switchDhcp = w.lp.switchDhcp := by
      show dhcpCandidate w.lp (senderIp frame) = _
      rw [hsame seen, hok.dhcp seen]
    refine ⟨sent, awaited_congr rfl ?_⟩
    rw [LanPlay.probe, hdhcp]
    rfl
  sends := ⟨[], (List.append_nil _).symm, fun _ unsent => absurd hsent unsent⟩

instance : Learns Probed where
  learn env frame := by
    intro w
    obtain ⟨learned, w', hrun, hlearned⟩ := learnLocalSwitch_learned env frame w
    rw [hrun, after_ok]
    cases hlearned with
    | rejected _ => exact refl w
    | conflict _ _ _ _ _ => exact .of_same rfl rfl rfl (List.append_nil _).symm
    | again _ seen sameIp _ =>
      have hprobed (h : SeenProbed w.lp) : SeenProbed (w.lp.withSwitch frame) := seen.symm.trans h
      refine ⟨rfl, hprobed, fun hok => ⟨hprobed hok.probed, fun _ => ?_, fun _ => ?_⟩,
        fun _ sent => ⟨sent, rfl⟩, [], (List.append_nil _).symm,
        fun _ unsent sent => absurd sent unsent⟩
      · exact (hok.ip seen).trans sameIp.symm
      · show w.lp.switchDhcp = dhcpCandidate w.lp (senderIp frame)
        rw [sameIp, hok.dhcp seen]
    | adopted _ new =>
      have hsame (seen : w.lp.switchSeen) : senderIp frame = w.lp.switchIp :=
        new.elim (fun unseen => absurd seen unseen) fun h => h.1
      unfold World.adopt
      split
      · rename_i hsent
        exact .enlist hsame hsent
      · rename_i hunsent
        -- the first console: it is enlisted, and probed at once
        refine ⟨rfl, fun _ => rfl, fun _ => ⟨rfl, fun _ => rfl, fun _ => rfl⟩,
          fun _ sent => absurd sent hunsent, _, request_probe env _, fun _ _ _ => ?_⟩
        exact List.mem_singleton_self _

/-! ## Sessions -/

/-- Callbacks of one session, one after the other. -/
inductive Session (w : World) : World → Prop
  | here : Session w w
  | event {w' : World} (before : Session w w') (env : Env) (event : Event) :
      Session w (after (handle env event w'))

theorem Session.probed {w w' : World} (h : Session w w') : Probed w w' := by
  induction h with
  | here => exact refl (r := Probed) w
  | event _ env event ih => exact ih.trans (steps_handle env event _)

/-- It does so over a whole process. -/
theorem Process.seenProbed {b : Bool} {w : World} (h : Process b w) : SeenProbed w.lp := by
  induction h with
  | boot => rfl
  | @start w w' ret env setup _ result ih =>
    have hkeep := lanPlayInit_learned env setup w
    rw [result, after_ok] at hkeep
    exact ih.congr (congrArg Prod.fst hkeep) (congrArg Prod.snd hkeep)
  | event env event _ ih => exact (steps_handle env event : Steps Probed _) _ |>.probed ih
  | close _ ih => exact ih

end Grid0Relay
