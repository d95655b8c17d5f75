import Grid0Relay.Logic.Blind
import Grid0Relay.Logic.Reach

/-!
# Restarts

`real_lan_play` is one static struct for the life of the process, and
`lan_play_init` sets only part of it. Two histories that agree on the rest cannot be
told apart after a restart. A history in which a console was learned can, and so can one in
which a start has failed and left its capture to the event loop.
-/

namespace Grid0Relay

open Lib Lib.Exec

/-- What a successful `lan_play_init` leaves as it was and the relay looks at
afterwards. -/
structure Survivors where
  switchMac : Mac
  switchIp : Ip4
  switchSeen : Bool
  switchMacConfirmed : Bool
  switchNintendoOui : Bool
  switchDhcp : Bool
  warnedBroadcastMismatch : Bool
  warnedDirectSwitchDelivery : Bool
  wifiDeliveryProbeSent : Bool
  wifiDeliveryProbeReplied : Bool
  wifiDeliveryProbePayload : Vector UInt8 16
  wifiDeliveryProbeIp : Ip4
  wifiDeliveryProbeMac : Mac
  dhcpIpId : UInt16
deriving DecidableEq

def World.survivors (w : World) : Survivors where
  switchMac := w.lp.switchMac
  switchIp := w.lp.switchIp
  switchSeen := w.lp.switchSeen
  switchMacConfirmed := w.lp.switchMacConfirmed
  switchNintendoOui := w.lp.switchNintendoOui
  switchDhcp := w.lp.switchDhcp
  warnedBroadcastMismatch := w.lp.warnedBroadcastMismatch
  warnedDirectSwitchDelivery := w.lp.warnedDirectSwitchDelivery
  wifiDeliveryProbeSent := w.lp.wifiDeliveryProbeSent
  wifiDeliveryProbeReplied := w.lp.wifiDeliveryProbeReplied
  wifiDeliveryProbePayload := w.lp.wifiDeliveryProbePayload
  wifiDeliveryProbeIp := w.lp.wifiDeliveryProbeIp
  wifiDeliveryProbeMac := w.lp.wifiDeliveryProbeMac
  dhcpIpId := w.dhcpIpId

/-- The Wi-Fi subnet, which survives when the adapter has no address at the restart. -/
structure WifiSubnet where
  wifiIp : Ip4
  wifiNetmask : Ip4
  wifiSubnet : Ip4
  wifiBroadcast : Ip4
  wifiSubnetKnown : Bool

def LanPlay.subnet (lp : LanPlay) : WifiSubnet :=
  ⟨lp.wifiIp, lp.wifiNetmask, lp.wifiSubnet, lp.wifiBroadcast, lp.wifiSubnetKnown⟩

/-- A session on its own: the logs start empty and the questions to the environment
are numbered from its start. -/
def World.session (w : World) : World := { w with sent := [], proxied := [], readings := 0, asked := 0 }

/-- Two sessions with the same options and adapters start from the same view. -/
theorem sameView_started {setup : Setup} {n : Network} {w₁ w₂ : World}
    (hkept : w₁.survivors = w₂.survivors)
    (hwifi : setup.wifiIpv4 = none → w₁.lp.subnet = w₂.lp.subnet) :
    SameView ⟨setup.discoverSwitch, false⟩ { w₁ with lp := n.started setup w₁.lp }.session
      { w₂ with lp := n.started setup w₂.lp }.session := by
  simp only [World.survivors, Survivors.mk.injEq] at hkept
  obtain ⟨hmac, hip, hseen, hconfirmed, houi, hdhcp, hwarned, hwarned', hsent, hreplied, hpayload,
    hprobeIp, hprobeMac, hid⟩ := hkept
  cases hpair : setup.wifiIpv4 with
  | none =>
    have hsubnet := hwifi hpair
    simp only [LanPlay.subnet, WifiSubnet.mk.injEq] at hsubnet
    obtain ⟨hwifiIp, hnetmask, hsub, hbroadcast, hknown⟩ := hsubnet
    cases hdiscover : setup.discoverSwitch <;>
      simp [SameView, World.view, World.session, Network.started, Network.withAdapters,
        Setup.withDiscovery, Setup.withWifi, LanPlay.view, *]
  | some pair =>
    cases hdiscover : setup.discoverSwitch <;>
      simp [SameView, World.view, World.session, Network.started, Network.withAdapters,
        Setup.withDiscovery, Setup.withWifi, LanPlay.view, *]

/-- Where the same calls the relay before a start, the same does after it. -/
theorem Loop.run_start {setup : Setup} (opened : Opened setup) {l₁ l₂ : Loop} (env₁ env₂ : Env)
    (hwifi : l₁.wifi.polling = l₂.wifi.polling)
    (hzerotier : l₁.zerotier.polling = l₂.zerotier.polling) (hsockets : l₁.sockets = l₂.sockets)
    (env : Env) : (l₁.start env₁ opened).run env = (l₂.start env₂ opened).run env := by
  have hinit : ∀ (c : Captures) (o : List Capture), (c.init o).polling = o ++ c.polling :=
    fun _ _ => rfl
  have hreceive : (l₁.start env₁ opened).receive env = (l₂.start env₂ opened).receive env := by
    funext a
    cases a <;> simp only [Loop.receive, Loop.start, apply_ite Captures.polling, hinit, hwifi,
      hzerotier, hsockets]
  funext arrivals w
  rw [Loop.run, Loop.run, hreceive]

theorem eq_ok_of_startsOk {r : EStateM.Result Fault World Int} (h : startsOk r = true) :
    r = .ok 0 (after r) := by
  cases r with
  | error e w => simp [startsOk] at h
  | ok ret w =>
    rw [startsOk, beq_iff_eq] at h
    rw [h, after_ok]

/-- The options and adapters of the sessions below. -/
def againSetup : Setup := plainSetup (ip4 10 147 17 5) (mac6 0x02 0 0 0 0 0x20)

def againOpened : Opened againSetup where
  wifi := [⟨"wlan0", mac6 0x02 0 0 0 0 0x10⟩]
  zerotier := [⟨"ztabcdefgh", mac6 0x02 0 0 0 0 0x20⟩]
  wifiOpened := rfl
  zerotierOpened := rfl
  wifiMac := rfl
  zerotierMac := rfl

def restarted (w : World) : World := after (lanPlayInit (calmEnv 1000) againSetup w)

/-- The process starts again. -/
def Restarts (l : Loop) : Prop :=
  lanPlayInit (calmEnv 1000) againSetup l.world = .ok 0 (restarted l.world)

/-- Its second session, when this has arrived. -/
def afterwards (l : Loop) (arrivals : List Arrival) : World :=
  (l.start (calmEnv 1000) againOpened).run (calmEnv 1000) arrivals (restarted l.world).session

/-- A process whose first session saw no console, stopped. -/
def idleLoop : Loop := (Loop.boot.start (calmEnv 1000) againOpened).stop []

/-- A process whose first session learned its console, stopped: the proxy may have sockets. -/
def usedWorld : World := { consoleWorld with lp := lanPlayClose consoleWorld.lp }

def usedLoop (sockets : List Ip4) : Loop := { idleLoop with world := usedWorld, sockets }

/-- A start that finds no ZeroTier adapter. -/
def failedOpened : Opened { againSetup with zerotierOpened := 0, zerotierMac := none } :=
  { againOpened with
    zerotier := []
    zerotierOpened := rfl
    zerotierMac := rfl }

def failedLoop : Loop := Loop.boot.start (calmEnv 1000) failedOpened

/-- A packet of a peer for the adapter's own ZeroTier address. -/
def peerFrame : Bytes :=
  etherHeader (mac6 0x02 0 0 0 0 0x20) (mac6 0x02 0 0 0 0 0x21) etherTypeIpv4 ++
    ipv4Header 30 0 ipv4ProtocolUdp (ip4 10 147 17 6) (ip4 10 147 17 5) ++
    [0xc0, 0, 0x88, 0xb8, 0, 10, 0, 0, 1, 2]

/-- A datagram that was asked for before the restart. -/
def dnsReply : Bytes := [0, 53, 192, 0, 0, 8, 0, 0]

end Grid0Relay
