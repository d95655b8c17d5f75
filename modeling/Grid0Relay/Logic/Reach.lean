import Grid0Relay.Logic.Handlers
import Grid0Relay.Logic.Start

/-!
# What holds in every session

`lan_play_init` succeeds only with a consistent pair of networks, and no callback
touches the configuration afterwards. Outside it, the one fact later modules need
about the struct is that a confirmed console is a seen one.
-/

namespace Grid0Relay

open Lib Lib.Exec

/-- What a successful `lan_play_init` has checked. -/
structure Configured (c : Config) : Prop where
  broadcast : c.zerotierBroadcastIp = fillIp c.zerotierIp c.zerotierNetmask
  zerotierInside : maskIp c.zerotierIp c.subnetMask = c.subnetNet
  gatewayInside : maskIp c.gatewayIp c.subnetMask = c.subnetNet
  arpTtl : c.arpTtl = 30

/-- A confirmed console was seen. -/
def ConsoleOk (c : Console) : Prop := c.switchMacConfirmed → c.switchSeen

instance (self : Ctx) : IgnoresArp self (Preserves fun c => ConsoleOk c.console) where
  arp _ _ := by cases self <;> exact id

instance : Probes (Preserves fun c => ConsoleOk c.console) where
  probe _ _ _ _ := id

instance : Learns (Preserves fun c => ConsoleOk c.console) := .of_switch fun _ _ _ _ _ => rfl

/-! ## The network of the adapter -/

theorem and_or_not (a m : UInt8) : (a ||| ~~~m) &&& m = a &&& m := by
  apply UInt8.toBitVec_inj.mp
  ext i hi
  simp
  cases m.toBitVec[i] <;> simp

/-- The broadcast address of a network is in it. -/
theorem maskIp_fillIp (ip mask : Ip4) : maskIp (fillIp ip mask) mask = maskIp ip mask := by
  simp [maskIp, fillIp, bytewise, and_or_not]

/-- An address of the adapter's ZeroTier network. -/
def InOverlay (lp : LanPlay) (ip : Ip4) : Prop :=
  maskIp ip lp.zerotierNetmask = maskIp lp.zerotierIp lp.zerotierNetmask

theorem broadcast_inOverlay {lp : LanPlay} (h : Configured lp.config) :
    InOverlay lp lp.zerotierBroadcastIp := by
  have hfill : lp.zerotierBroadcastIp = fillIp lp.zerotierIp lp.zerotierNetmask := h.broadcast
  rw [InOverlay, hfill, maskIp_fillIp]

theorem isZerotierDestination_iff {lp : LanPlay} (h : Configured lp.config) (ip : Ip4) :
    isZerotierDestination lp ip = true ↔ InOverlay lp ip := by
  rw [isZerotierDestination, Bool.or_eq_true, beq_iff_eq, beq_iff_eq]
  refine ⟨?_, Or.inr⟩
  rintro (rfl | hin)
  · exact broadcast_inOverlay h
  · exact hin

/-! ## `lan_play_init` -/

/-- The services leave the core alone. -/
theorem steps_initServices {R : World → World → Prop} [Quiet R] [Sweeps R] (env : Env)
    (setup : Setup) :
    Steps R (initServices env setup) := by
  have hguard : ∀ guard, Steps R (modifyLp fun lp => { lp with udpGuard := guard }) :=
    fun guard => steps_modifyLp fun _ => rfl
  have hdiscover : Steps R (modifyLp fun lp =>
      { lp with
        switchDiscoveryHost := 2
        switchDiscoveryPauseTicks := 0
        switchDiscoveryWifiPhase := lp.wifiSubnetKnown }) := steps_modifySweep fun _ => rfl
  have hports : ∀ ports, Steps R (reservePorts env ports) := by
    intro ports
    induction ports with
    | nil => exact steps_pure _
    | cons port rest ih =>
      refine steps_bind (steps_nativeUdpGuardReserve _ _) fun ret => ?_
      exact steps_ite (fun _ => steps_bind (hguard _) fun _ => steps_pure _) fun _ => ih
  refine steps_guard fun _ => steps_bind (hguard _) fun _ => ?_
  refine steps_bind (steps_ask _) fun alloc => steps_guard fun _ => ?_
  refine steps_bind (hguard _) fun _ => steps_bind (hports _) fun ret => ?_
  refine steps_guard fun _ => steps_guard fun _ => ?_
  refine steps_ite (fun _ => steps_bind hdiscover fun _ => ?_) fun _ => steps_pure _
  exact steps_guard fun _ => steps_pure _

theorem lanPlayInit_configured {env : Env} {setup : Setup} {w w' : World}
    (h : lanPlayInit env setup w = .ok 0 w') : Configured w'.lp.config := by
  obtain ⟨n, asked, -, ⟨hzerotier, hgateway⟩, rfl⟩ := lanPlayInit_started h
  have hconfig : (n.started setup w.lp).config =
      { n.withAdapters setup w.lp with
        packetCtx := packetInit n.gateway n.subnetNet n.subnetMask 30 }.config := by
    unfold Network.started Setup.withDiscovery Network.withAdapters Setup.withWifi
    cases setup.wifiIpv4 <;> split <;> rfl
  change Configured (n.started setup w.lp).config
  rw [hconfig]
  exact ⟨rfl, hzerotier, hgateway, rfl⟩

/-- The console and its probe. -/
def Core.learned (c : Core) : Console × Probe := (c.console, c.probe)

/-- `lan_play_init` does not touch the console or its probe. -/
theorem lanPlayInit_learned (env : Env) (setup : Setup) :
    Keeps (fun w : World => w.lp.core.learned) (lanPlayInit env setup) := by
  have hset : ∀ f : LanPlay → LanPlay, (∀ lp, (f lp).core.learned = lp.core.learned) →
      Keeps (fun w : World => w.lp.core.learned) (modifyLp f) := fun f h w => h w.lp
  have hservices : Keeps (fun w : World => w.lp.core.learned) (initServices env setup) :=
    steps_initServices env setup
  have hwifi : Keeps (fun w : World => w.lp.core.learned) (initWifiSubnet setup) := by
    unfold initWifiSubnet
    split
    · exact steps_pure _
    · exact hset _ fun _ => rfl
  have hzerotier : ∀ mac net mask,
      Keeps (fun w : World => w.lp.core.learned) (initZerotier setup mac net mask) := by
    intro mac net mask
    unfold initZerotier
    split
    · exact steps_pure _
    · refine steps_bind (hset _ fun _ => rfl) fun _ => ?_
      split
      · exact steps_pure _
      · refine steps_bind (hset _ fun _ => rfl) fun _ => ?_
        exact steps_guard fun _ =>
          steps_guard fun _ => steps_pure _
  have hadapters : ∀ net mask,
      Keeps (fun w : World => w.lp.core.learned) (initAdapters setup net mask) := by
    intro net mask
    unfold initAdapters
    split
    · exact steps_pure _
    · exact steps_bind (hset _ fun _ => rfl) fun _ => steps_bind hwifi fun _ => hzerotier _ _ _
  refine steps_bind (hset _ fun _ => rfl) fun _ => steps_guard fun _ => ?_
  split
  · refine steps_guard fun _ => steps_guard fun _ => ?_
    refine steps_bind (hadapters _ _) fun ret => steps_guard fun _ => ?_
    exact steps_bind (hset _ fun _ => rfl) fun _ => hservices
  · exact steps_pure _

/-! ## Sessions -/

/-- No callback touches the configuration. -/
theorem handle_config (env : Env) (event : Event) :
    Keeps (fun w : World => w.lp.core.config) (handle env event) := steps_handle env event

theorem Process.configured {b : Bool} {w : World} (h : Process b w) (running : b = true) :
    Configured w.lp.config := by
  induction h with
  | boot => cases running
  | start env setup _ result _ =>
    rw [beq_iff_eq] at running
    subst running
    exact lanPlayInit_configured result
  | event env event _ ih =>
    rw [show (after (handle env event _)).lp.config = _ from handle_config env event _]
    exact ih rfl
  | close _ _ => cases running

theorem Process.consoleOk {b : Bool} {w : World} (h : Process b w) : ConsoleOk w.lp.console := by
  induction h with
  | boot => exact fun h => h
  | @start w w' ret env setup _ result ih =>
    have hkeep := lanPlayInit_learned env setup w
    rw [result, after_ok] at hkeep
    rw [show w'.lp.console = w.lp.console from congrArg Prod.fst hkeep]
    exact ih
  | event env event _ ih =>
    exact (steps_handle env event : Steps (Preserves fun c => ConsoleOk c.console) _) _ ih
  | close _ ih => exact ih

theorem Reachable.configured {w : World} (h : Reachable w) : Configured w.lp.config :=
  Process.configured h rfl

/-! ## A session

The default network, a Wi-Fi adapter with an address of its own, and an
environment in which every call succeeds. -/

/-- Every system call succeeds and the clock stands still. -/
def calmEnv (now : Nat) : Env where
  options := ⟨false, false, none⟩
  clock _ := now
  hrtime _ := Vector.replicate 8 0
  sendpacket _ := 0
  calloc _ := true
  uvUdpInit _ := 0
  uvUdpBind _ := 0
  uvUdpRecvStart _ := 0
  lwipInput _ _ := []
  stackMac _ := noneMac

/-- The default `--subnet` and `--gateway` with these adapters. -/
def plainSetup (zerotierIp : Ip4) (zerotierMac : Mac) : Setup where
  subnet := none
  gatewayIp := none
  relayServerOk := true
  wifiOpened := 1
  zerotierOpened := 1
  wifiMac := some (mac6 0x02 0 0 0 0 0x10)
  wifiIpv4 := some (ip4 192 168 137 1, ip4 255 255 255 0)
  zerotierMac := some zerotierMac
  zerotierIpv4 := some (zerotierIp, ip4 255 255 255 0)
  socks5ServerOk := true
  gatewayInit := 0
  capturesOk := true
  discoverSwitch := false
  timerInit := 0
  timerStart := 0

/-- The first session of a process, before any frame. -/
def plainWorld : World :=
  after (lanPlayInit (calmEnv 1000)
    (plainSetup (ip4 10 147 17 5) (mac6 0x02 0 0 0 0 0x20)) World.boot)

/-- A start that returned zero, as a test. -/
def startsOk : EStateM.Result Fault World Int → Bool
  | .ok ret _ => ret == 0
  | .error _ _ => false

theorem Reachable.of_start {env : Env} {setup : Setup}
    (h : startsOk (lanPlayInit env setup World.boot) = true) :
    Reachable (after (lanPlayInit env setup World.boot)) := by
  cases hrun : lanPlayInit env setup World.boot with
  | error e w => simp [hrun, startsOk] at h
  | ok ret w =>
    have hstart := Process.start env setup .boot hrun
    rw [hrun] at h
    rw [show (ret == 0) = true from h] at hstart
    exact hstart

theorem plainWorld_reachable : Reachable plainWorld := Reachable.of_start (by decide +kernel)

/-- An ARP request of a console with the address 10.147.17.20. -/
def helloFrame : Bytes :=
  etherHeader broadcastMac (mac6 0x98 0xb6 0xe9 1 2 3) etherTypeArp ++
    arpBody arpOpcodeRequest (mac6 0x98 0xb6 0xe9 1 2 3) (ip4 10 147 17 20) noneMac
      (ip4 10 147 17 1)

/-- The session once it has seen its console. -/
def consoleWorld : World := after (handle (calmEnv 1000) (.wifi helloFrame) plainWorld)

theorem consoleWorld_reachable : Reachable consoleWorld :=
  Process.event _ _ plainWorld_reachable

end Grid0Relay
