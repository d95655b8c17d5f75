import Grid0Relay.Logic.Lifecycle

/-!
# Starting and stopping

What `lan_play_init` leaves behind when it fails, and what `lan_play_close` leaves
behind after a session. The account of each function is put together to the
account of a whole session; from it the settings under which nothing is lost and
nothing foreign is touched can be read off.
-/

namespace Grid0Relay.Lifecycle

open Lib.Ledger

/-! ## A session -/

theorem captureTokens_split (h : Handles) (i : Fin 5) : captureTokens h =
    tokenOf (h.captures i) (.captureFile i) + captureTokens (h.setCapture i none) := by
  have hfree : tokenOf ((h.setCapture i none).captures i) (.captureFile i) = 0 := by
    simp only [Handles.setCapture, Function.update_self]
    rfl
  rw [← captureTokens_setCapture (h.captures i) hfree, h.setCapture_setCapture, h.setCapture_self]

theorem fileStrays_setCapture {captures : Fin 5 → Option Owner} {i : Fin 5} {files : List (Fin 5)}
    (hi : i ∈ files) (hnodup : files.Nodup) :
    2 * strayOf (captures i) + fileStrays (Function.update captures i none) files =
      fileStrays captures files := by
  induction files with
  | nil => simp at hi
  | cons j rest ih =>
    obtain ⟨hj, hnodup⟩ := List.nodup_cons.mp hnodup
    by_cases hij : i = j
    · subst hij
      rw [fileStrays, fileStrays, fileStrays_update hj, Function.update_self]
      simp [strayOf]
    · have hrest : i ∈ rest := by
        rcases List.mem_cons.mp hi with rfl | hrest
        · exact absurd rfl hij
        · exact hrest
      rw [fileStrays, fileStrays, Function.update_of_ne (Ne.symm hij), ← ih hrest hnodup]
      omega

/-- Dropping a file takes its strays with it. -/
theorem captureStrays_split (h : Handles) (i : Fin 5) : captureStrays h =
    2 * strayOf (h.captures i) + captureStrays (h.setCapture i none) := by
  have hsplit := @fileStrays_setCapture h.captures i _ (List.mem_finRange i)
    (List.nodup_finRange 5)
  simp only [captureStrays, Handles.setCapture]
  omega

theorem interfaceTokens_mem {side : Side} {d : Device} {device : Nat}
    {interfaces : List Interface} (hmem : (d, device) ∈ interfaces) :
    ∃ K, interfaceTokens side interfaces = {.loopHandle side device} + K := by
  induction interfaces with
  | nil => simp at hmem
  | cons i rest ih =>
    rcases List.mem_cons.mp hmem with rfl | hmem
    · exact ⟨{.pcap side device} + interfaceTokens side rest, add_left_comm _ _ _⟩
    · obtain ⟨K, hK⟩ := ih hmem
      refine ⟨{.pcap side i.2} + ({.loopHandle side i.2} + K), ?_⟩
      rw [interfaceTokens, hK]
      abel

/-- Stopping a capture that cannot be read operates on a handle it has. -/
theorem stopReading_turns (side : Side) (interfaces : List Interface) (interface : Nat)
    (h : Handles) :
    Turns (stopReading side (some interfaces) interface) h (interfaceTokens side interfaces) () h
      (interfaceTokens side interfaces) 0 := by
  unfold stopReading
  simp only [Option.getD_some]
  cases hdrop : interfaces.drop interface with
  | nil => exact turns_pure _ _
  | cons i rest =>
    have hmem : i ∈ interfaces := by
      refine List.mem_of_mem_drop (i := interface) ?_
      rw [hdrop]
      exact List.mem_cons_self
    obtain ⟨K, hK⟩ := @interfaceTokens_mem side _ _ _ hmem
    rw [hK]
    exact turns_operate _ _

/-- What of the struct a session does not change. -/
def Handles.fixed (h : Handles) : Handles :=
  { h.uncaptured with udpGuard := none, listening := false }

theorem Running.of_fixed {s : Startup} {h t : Handles} (hrun : Running s h)
    (hfixed : t.fixed = h.fixed) : Running s t := by
  have hrun' : Running s h.fixed := ⟨⟨hrun.gateway, hrun.timer, hrun.rule, hrun.client⟩,
    hrun.pcap, hrun.zerotierPcap, hrun.captures⟩
  rw [← hfixed] at hrun'
  exact ⟨⟨hrun'.gateway, hrun'.timer, hrun'.rule, hrun'.client⟩, hrun'.pcap, hrun'.zerotierPcap,
    hrun'.captures⟩

/-- One step of a session keeps its account. It is stray exactly when it uses a
capture file an earlier session left. -/
theorem step_turns (s : Startup) (step : Step) {h : Handles} (hrun : Running s h) :
    ∃ t k, Turns step.run h (runningTokens s h) () t (runningTokens s t) k ∧ Running s t ∧
      (k + captureStrays t = 0 ↔ captureStrays h = 0) := by
  cases step with
  | reserve port r =>
    obtain ⟨ret, g, hturns, -⟩ := nativeUdpGuardReserve_turns h port r
    refine ⟨{ h with udpGuard := g }, 0, ?_, ?_, by rw [Nat.zero_add]; rfl⟩
    · have hframed := hturns.frame (captureTokens h + fixedTokens s)
      refine Turns.andThen (Turns.cast hframed ?_ rfl rfl) (Turns.cast (turns_pure _ _) rfl ?_ rfl)
      · exact (add_assoc _ _ _).symm
      · exact (add_assoc _ _ _).symm
    · exact hrun.of_fixed rfl
  | flush i flushed =>
    have hsplit := captureTokens_split h i
    have hstrays := captureStrays_split h i
    cases flushed with
    | true =>
      refine ⟨h, strayOf (h.captures i), ?_, hrun, by omega⟩
      have hframed := (flushCapture_turns h i).frame
        (guardTokens h.udpGuard + captureTokens (h.setCapture i none) + fixedTokens s)
      refine Turns.cast hframed ?_ ?_ rfl
      · rw [runningTokens, hsplit]
        abel
      · rw [runningTokens, hsplit]
        abel
    | false =>
      refine ⟨h.setCapture i none, 2 * strayOf (h.captures i), ?_, ?_, by omega⟩
      · have hframed := (flushCapture_closes h i).frame
          (guardTokens h.udpGuard + captureTokens (h.setCapture i none) + fixedTokens s)
        refine Turns.cast hframed ?_ (zero_add _) rfl
        rw [runningTokens, hsplit]
        abel
      · exact hrun.of_fixed rfl
  | readFailed side interface =>
    refine ⟨h, 0, Turns.andThen (turns_read _) ?_, hrun, by rw [Nat.zero_add]⟩
    cases side with
    | wifi =>
      have hstop := stopReading_turns .wifi (s.wifi.opened s.windows) interface h
      have hheld : runningTokens s h = interfaceTokens .wifi (s.wifi.opened s.windows) +
          (guardTokens h.udpGuard + captureTokens h + (timerTokens s + gatewayTokens +
            (interfaceTokens .zerotier (s.zerotier.opened s.windows) +
              strandedTokens .zerotier (s.zerotier.stranded s.windows)) +
            strandedTokens .wifi (s.wifi.stranded s.windows) +
            blockTokens s.windows s.dhcpServer)) := by
        rw [runningTokens, fixedTokens]
        abel
      rw [hheld, hrun.pcap]
      exact hstop.frame _
    | zerotier =>
      have hstop := stopReading_turns .zerotier (s.zerotier.opened s.windows) interface h
      have hheld : runningTokens s h =
          interfaceTokens .zerotier (s.zerotier.opened s.windows) +
          (guardTokens h.udpGuard + captureTokens h + (timerTokens s + gatewayTokens +
            strandedTokens .zerotier (s.zerotier.stranded s.windows) +
            (interfaceTokens .wifi (s.wifi.opened s.windows) +
              strandedTokens .wifi (s.wifi.stranded s.windows)) +
            blockTokens s.windows s.dhcpServer)) := by
        rw [runningTokens, fixedTokens]
        abel
      rw [hheld, hrun.zerotierPcap]
      exact hstop.frame _

theorem runSession_turns (s : Startup) (session : List Step) {h : Handles} (hrun : Running s h) :
    ∃ t k, Turns (runSession session) h (runningTokens s h) () t (runningTokens s t) k ∧
      Running s t ∧ (k + captureStrays t = 0 ↔ captureStrays h = 0) := by
  induction session generalizing h with
  | nil => exact ⟨h, 0, turns_pure _ _, hrun, by rw [Nat.zero_add]⟩
  | cons step rest ih =>
    obtain ⟨t, j, hstep, hrun', hstrays⟩ := step_turns s step hrun
    obtain ⟨u, k, hrest, hrun'', hstrays'⟩ := ih hrun'
    refine ⟨u, j + k, Turns.bind hstep hrest, hrun'', ?_⟩
    omega

/-! ## The end of a session -/

theorem operateOn_stray {owner : Option Owner} (howner : owner ≠ some .session) (r : Resource)
    (h : Handles) (M : Multiset Resource) : Turns (operateOn owner r) h M () h M 1 := by
  cases owner with
  | none => exact turns_stray _
  | some o =>
    cases o with
    | earlier => exact turns_stray _
    | session => exact absurd rfl howner

theorem releaseOf_stray {owner : Option Owner} (howner : owner ≠ some .session) (r : Resource)
    (h : Handles) (M : Multiset Resource) : Turns (releaseOf owner r) h M () h M 1 := by
  cases owner with
  | none => exact turns_stray _
  | some o =>
    cases o with
    | earlier => exact turns_stray _
    | session => exact absurd rfl howner

/-- `lan_client_close` works on handles that were never set up. -/
theorem lanClientClose_turns (closing : Closing) {h : Handles} (hclient : NoClient h)
    (M : Multiset Resource) :
    ∃ ret k, Turns (lanClientClose closing) h M ret h M (1 + k) := by
  unfold lanClientClose
  have hclientStray := operateOn_stray hclient.1 .client h M
  by_cases hrecv : closing.recvStop ≠ 0
  · exact ⟨_, 0, Turns.andThen (turns_read _) (Turns.bind hclientStray
      (turns_ite_pos hrecv (turns_pure _ _)))⟩
  have hkeepalive := operateOn_stray hclient.2.1 .clientKeepaliveTimer h M
  by_cases hkeep : closing.keepaliveStop ≠ 0
  · exact ⟨_, 1 + 0, Turns.andThen (turns_read _) (Turns.bind hclientStray
      (turns_ite_neg hrecv (Turns.bind hkeepalive (turns_ite_pos hkeep (turns_pure _ _)))))⟩
  have hbroadcast := operateOn_stray hclient.2.2 .realBroadcastTimer h M
  by_cases hreal : closing.realBroadcastStop ≠ 0
  · exact ⟨_, 1 + (1 + 0), Turns.andThen (turns_read _) (Turns.bind hclientStray
      (turns_ite_neg hrecv (Turns.bind hkeepalive (turns_ite_neg hkeep (Turns.bind hbroadcast
        (turns_ite_pos hreal (turns_pure _ _)))))))⟩
  refine ⟨0, 1 + (1 + (1 + (1 + 0))), Turns.andThen (turns_read _) (Turns.bind hclientStray
    (turns_ite_neg hrecv (Turns.bind hkeepalive (turns_ite_neg hkeep (Turns.bind hbroadcast
      (turns_ite_neg hreal ?_))))))⟩
  refine Turns.bind (releaseOf_stray hclient.1 _ _ _) ?_
  exact Turns.bind (releaseOf_stray hclient.2.1 _ _ _) (turns_pure _ _)

/-- The connections that wait for a SOCKS5 server. -/
def Closing.waiting (closing : Closing) (s : Startup) : List Bool :=
  closing.connections.filter s.waits

theorem killAll_turns (s : Startup) (closing : Closing) (h : Handles) (M : Multiset Resource) :
    Turns (killAll s closing.connections) h M () h M (closing.waiting s).length := by
  unfold Closing.waiting
  induction closing.connections with
  | nil => exact turns_pure _ _
  | cons ready rest ih =>
    unfold killAll kill
    by_cases hwaits : s.waits ready
    · rw [List.filter_cons_of_pos hwaits, List.length_cons, Nat.add_comm]
      exact Turns.bind (turns_ite_pos hwaits (turns_stray _)) ih
    · rw [List.filter_cons_of_neg hwaits]
      exact Turns.andThen (turns_ite_neg hwaits (turns_pure _ _)) ih

/-- What stays of the gateway when no connection is closed with it. -/
def keptTokens (s : Startup) (closing : Closing) : Multiset Resource :=
  if closing.connections ≠ [] then 0 else {.lwip} + (if s.fakeInternet then 0 else {.proxy})

theorem dropShared_turns (s : Startup) (closing : Closing) (h : Handles) :
    Turns (dropShared s (some .session) closing.connections) h ({.lwip} + {.proxy}) () h
      (keptTokens s closing) 0 := by
  unfold dropShared keptTokens
  by_cases hopen : closing.connections ≠ []
  · rw [if_pos hopen, if_pos hopen]
    exact Turns.andThen ((releaseSet_turns (some .session) .lwip h).offof _)
      (releaseSet_turns (some .session) .proxy h)
  · rw [if_neg hopen, if_neg hopen]
    cases s.fakeInternet with
    | true =>
      refine turns_ite_pos rfl ?_
      exact Turns.cast ((releaseSet_turns (some .session) .proxy h).offof {.lwip}) (add_comm _ _)
        (add_zero _).symm rfl
    | false => exact turns_ite_neg (by decide) (turns_pure _ _)

theorem gatewayClose_turns (s : Startup) (closing : Closing) {h : Handles} (hrun : Serving s h) :
    Turns (gatewayClose s closing.connections) h gatewayTokens () { h with listening := false }
      (keptTokens s closing) (closing.waiting s).length := by
  unfold gatewayClose gatewayTokens
  refine Turns.andThen (turns_read _) (Turns.andThen (turns_update _ _) ?_)
  refine Turns.followed (killAll_turns s closing _ _) ?_
  rw [hrun.gateway]
  refine Turns.andThen (Turns.cast ((dropShared_turns s closing _).frame {.gateway})
    (add_assoc _ _ _) rfl rfl) ?_
  exact Turns.cast ((releaseSet_turns (some .session) .gateway _).offof (keptTokens s closing))
    (add_comm _ _) rfl rfl

theorem closeGateway_turns (s : Startup) (closing : Closing) {h : Handles} (hrun : Serving s h) :
    ∃ t, Turns (closeGateway s closing) h (gatewayTokens + blockTokens s.windows s.dhcpServer) 0 t
      (keptTokens s closing) (closing.waiting s).length := by
  unfold closeGateway
  have hrule := winfwSetHotspotDhcpBlock_turns s.windows false { h with listening := false }
  have hblock : (if s.windows then tokenOf h.firewallRule .hotspotDhcpBlock else 0) =
      blockTokens s.windows s.dhcpServer := by
    by_cases hwindows : s.windows = true
    · rw [if_pos hwindows, hrun.rule hwindows, blockTokens, hwindows]
      cases s.dhcpServer <;> rfl
    · simp [hwindows, blockTokens]
  have hstray : (if s.windows then strayOf h.firewallRule else 0) = 0 := by
    by_cases hwindows : s.windows = true
    · rw [if_pos hwindows, hrun.rule hwindows]
      cases s.dhcpServer <;> rfl
    · simp [hwindows]
  have hnone : blockTokens s.windows false = 0 := by simp [blockTokens]
  rw [hblock, hstray, hnone] at hrule
  exact ⟨_, Turns.followed ((gatewayClose_turns s closing hrun).frame _) (Turns.andThen
    (Turns.cast (hrule.frame (keptTokens s closing)) (add_comm _ _) (zero_add _) rfl)
    (turns_pure _ _))⟩

/-- With `--relay-server-addr` the end of `lan_play_close` is stray. -/
theorem closeServices_turns (s : Startup) (closing : Closing) {h : Handles} (hrun : Serving s h) :
    ∃ ret t N k, Turns (closeServices s closing) h
        (gatewayTokens + blockTokens s.windows s.dhcpServer) ret t N k ∧
      (N = 0 ∧ k = 0 ↔ s.relayServer = none ∧ closing.connections ≠ [] ∧
        closing.waiting s = []) := by
  unfold closeServices
  obtain ⟨t, hgateway⟩ := closeGateway_turns s closing hrun
  have hkept : keptTokens s closing = 0 ↔ closing.connections ≠ [] := by
    unfold keptTokens
    by_cases hopen : closing.connections = [] <;> simp [hopen]
  by_cases hrelay : s.relayServer = none
  · exact ⟨0, t, _, _, turns_ite_pos hrelay hgateway, by simp [hrelay, hkept]⟩
  obtain ⟨ret, k, hclient⟩ := lanClientClose_turns closing hrun.client
    (gatewayTokens + blockTokens s.windows s.dhcpServer)
  by_cases hret : ret ≠ 0
  · exact ⟨ret, h, _, _, turns_ite_neg hrelay (Turns.followed hclient (turns_ite_pos hret
      (turns_pure _ _))), iff_of_false (by omega) fun h => hrelay h.1⟩
  · exact ⟨0, t, _, _, turns_ite_neg hrelay (Turns.bind hclient (turns_ite_neg hret
      hgateway)), iff_of_false (by omega) fun h => hrelay h.1⟩

theorem stopDiscovery_turns (s : Startup) {h : Handles} (hrun : Running s h) :
    Turns (stopDiscovery s) h (timerTokens s) () h (timerTokens s) 0 := by
  unfold stopDiscovery timerTokens
  refine Turns.andThen (turns_read _) ?_
  by_cases hdiscover : s.discoverSwitch = true
  · rw [if_pos hdiscover, if_pos hdiscover, hrun.timer hdiscover]
    exact turns_operate Resource.discoveryTimer h (M := 0)
  · rw [if_neg hdiscover, if_neg hdiscover]
    exact turns_pure _ _

theorem logGuard_turns (s : Startup) (h : Handles) :
    Turns (logGuard s) h (guardTokens h.udpGuard) () h (guardTokens h.udpGuard) 0 := by
  unfold logGuard
  refine Turns.andThen (turns_read _) ?_
  cases hguard : h.udpGuard with
  | none => exact turns_ite_neg (by simp) (turns_pure _ _)
  | some ports =>
    by_cases hlog : s.diagnostics = true
    · exact turns_ite_pos (by simp [hlog]) (turns_operate _ _)
    · exact turns_ite_neg (by simp [hlog]) (turns_pure _ _)

/-- What `lan_play_close` does not release: off Windows the captures, everywhere the
discovery timer and the loop handles that did not start. -/
def unreleasedTokens (s : Startup) : Multiset Resource :=
  timerTokens s +
    ((if s.windows then 0 else interfaceTokens .zerotier (s.zerotier.opened s.windows)) +
      strandedTokens .zerotier (s.zerotier.stranded s.windows)) +
    ((if s.windows then 0 else interfaceTokens .wifi (s.wifi.opened s.windows)) +
      strandedTokens .wifi (s.wifi.stranded s.windows))

theorem lanPlayClose_turns (s : Startup) (closing : Closing) {h : Handles} (hrun : Running s h) :
    ∃ ret t N k, Turns (lanPlayClose s closing) h (runningTokens s h) ret t
        (N + unreleasedTokens s) (captureStrays h + k) ∧
      (N = 0 ∧ k = 0 ↔ s.relayServer = none ∧ closing.connections ≠ [] ∧
        closing.waiting s = []) := by
  let u : Handles := Handles.uncaptured { h with udpGuard := none }
  have hserving : Serving s { u with capturesClosed := s.windows } :=
    ⟨hrun.gateway, hrun.timer, hrun.rule, hrun.client⟩
  obtain ⟨ret, t, N, k, hservices, hclean⟩ := closeServices_turns s closing hserving
  refine ⟨some ret, t, N, k, ?_, hclean⟩
  unfold lanPlayClose closeOpened
  -- Each step works on its part of the account; `K` is the frame that stays to the end.
  let K : Multiset Resource := timerTokens s + strandedTokens .zerotier
    (s.zerotier.stranded s.windows) + strandedTokens .wifi (s.wifi.stranded s.windows)
  let services := gatewayTokens + blockTokens s.windows s.dhcpServer
  let wifi := interfaceTokens .wifi (s.wifi.opened s.windows)
  let zerotier := interfaceTokens .zerotier (s.zerotier.opened s.windows)
  let wifiLeft : Multiset Resource := if s.windows then 0 else wifi
  let zerotierLeft : Multiset Resource := if s.windows then 0 else zerotier
  have htimer : Turns (stopDiscovery s) h (runningTokens s h) () h
      (guardTokens h.udpGuard + (captureTokens h + (wifi + (zerotier + (services + K))))) 0 := by
    refine Turns.cast ((stopDiscovery_turns s hrun).frame (guardTokens h.udpGuard +
      (captureTokens h + (wifi + (zerotier + (services + (strandedTokens .zerotier
        (s.zerotier.stranded s.windows) + strandedTokens .wifi (s.wifi.stranded s.windows)))))))) ?_ ?_
      rfl
    · simp only [runningTokens, fixedTokens, wifi, zerotier, services]
      abel
    · simp only [K]
      abel
  have hwifi := (uvPcapClose_turns s.windows .wifi u (s.wifi.opened s.windows)).frame
    (zerotier + (services + K))
  have hzerotier := (uvPcapClose_turns s.windows .zerotier u
    (s.zerotier.opened s.windows)).frame (wifiLeft + (services + K))
  have hend := hservices.frame (zerotierLeft + (wifiLeft + K))
  have hopened : h.opened = some (s.wifi.opened s.windows, s.zerotier.opened s.windows) := by
    simp [Handles.opened, hrun.pcap, hrun.zerotierPcap, hrun.captures]
  refine Turns.andThen (turns_read _) ?_
  rw [hopened]
  refine Turns.followed ?_ (turns_pure _ _)
  refine Turns.andThen htimer (Turns.andThen ((logGuard_turns s h).frame _) ?_)
  refine Turns.andThen ((dropGuard_turns h).offof _) ?_
  refine Turns.bind ((closeCaptures_turns closing.flush { h with udpGuard := none }).offof _) ?_
  refine Turns.andThen hwifi (Turns.andThen (Turns.cast hzerotier ?_ rfl rfl)
    (Turns.andThen (turns_update _ _) (Turns.cast hend ?_ ?_ rfl)))
  · exact add_left_comm _ _ _
  · simp only [services, zerotierLeft, wifiLeft, zerotier]
    abel
  · simp only [unreleasedTokens, zerotierLeft, wifiLeft, zerotier, wifi, K]
    abel

/-! ## The whole life of a session -/

/-- The session and its end. -/
def endSession (s : Startup) (session : List Step) (closing : Closing) : LifeM (Option Int) := do
  runSession session
  lanPlayClose s closing

/-- A start that fails has released what it acquired. After one that succeeds, the
session and `lan_play_close` use only what the session holds, and at the end it holds
nothing: a second release, or one of something never acquired, would be stray. A start that
ends the process returns nothing. -/
def Clean (s : Startup) (before : Handles) (session : List Step) (closing : Closing) : Prop :=
  let started := lanPlayInit s ⟨before.inherited, 0, 0⟩
  if started.1 ≠ some 0 then started.1 = none ∨ started.2.held = 0
  else
    let closed := endSession s session closing started.2
    closed.2.held = 0 ∧ closed.2.strays = started.2.strays

instance (s : Startup) (before : Handles) (session : List Step) (closing : Closing) :
    Decidable (Clean s before session closing) := by
  unfold Clean
  infer_instance

/-- The lwIP of an earlier start ends the process. Otherwise a start that fails does so
before it holds anything; one that succeeds runs on Windows, without discovery and without a
relay server, has started every loop handle it set up, finds no capture of an earlier session
unless it opens its own, and is closed over a TCP connection, none of which waits for a
SOCKS5 server. -/
def Startup.Releases (s : Startup) (before : Handles) (closing : Closing) : Prop :=
  (s.reachesGateway ∧ before.listening) ∨
  if s.starts then
    (s.windows ∧ !s.discoverSwitch ∧ s.wifi.stranded s.windows = [] ∧
      s.zerotier.stranded s.windows = []) ∧
    (s.relayServer = none ∧ closing.connections ≠ [] ∧ closing.waiting s = []) ∧
    (s.capturePrefix ∨ before.captureFormat = none ∧ ∀ i, before.captures i = none)
  else s.failsEmpty

theorem captureStrays_inherited (h : Handles) : captureStrays h.inherited = 0 ↔
    h.captureFormat = none ∧ ∀ i, h.captures i = none := by
  have hmark : ∀ o : Option Owner, o.map (fun _ => Owner.earlier) ≠ some .earlier ↔ o = none := by
    intro o
    cases o <;> simp
  rw [captureStrays_eq_zero]
  simp only [Handles.inherited, hmark]
  exact and_comm

theorem unreleasedTokens_eq_zero (s : Startup) (hwifi : s.wifi.opened s.windows ≠ []) :
    unreleasedTokens s = 0 ↔ s.windows ∧ !s.discoverSwitch ∧ s.wifi.stranded s.windows = [] ∧
      s.zerotier.stranded s.windows = [] := by
  have htimer : timerTokens s = 0 ↔ !s.discoverSwitch := by
    unfold timerTokens
    cases s.discoverSwitch <;> simp
  have hopen : (if s.windows then 0 else interfaceTokens .wifi (s.wifi.opened s.windows)) = 0 ↔
      s.windows = true := by
    by_cases hwindows : s.windows = true
    · simp [hwindows]
    · simp only [hwindows, Bool.false_eq_true, if_false, interfaceTokens_eq_zero]
      rw [Bool.not_eq_true] at hwindows
      rw [hwindows] at hwifi
      exact iff_of_false hwifi (by simp)
  simp only [unreleasedTokens, add_eq_empty, strandedTokens_eq_zero, htimer, hopen]
  constructor
  · rintro ⟨⟨htimer, -, hzerotier⟩, hwindows, hwifi⟩
    exact ⟨hwindows, htimer, hwifi, hzerotier⟩
  · rintro ⟨hwindows, htimer, hwifi, hzerotier⟩
    exact ⟨⟨htimer, by simp [hwindows], hzerotier⟩, hwindows, hwifi⟩

/-- A running session ends clean exactly when nothing is left unreleased, neither by the
captures nor by the services, and the captures are its own. -/
theorem endSession_turns (s : Startup) (session : List Step) (closing : Closing) {t : Handles}
    (hrun : Running s t) (hwifi : s.wifi.opened s.windows ≠ []) :
    ∃ ret v N k, Turns (endSession s session closing) t (runningTokens s t) ret v N k ∧
      (N = 0 ∧ k = 0 ↔
        (s.windows ∧ !s.discoverSwitch ∧ s.wifi.stranded s.windows = [] ∧
          s.zerotier.stranded s.windows = []) ∧
        (s.relayServer = none ∧ closing.connections ≠ [] ∧ closing.waiting s = []) ∧
        captureStrays t = 0) := by
  obtain ⟨u, j, hsession, hrun', hstrays⟩ := runSession_turns s session hrun
  obtain ⟨ret, v, N, k, hclose, hclean⟩ := lanPlayClose_turns s closing hrun'
  refine ⟨ret, v, _, _, Turns.bind hsession hclose, ?_⟩
  rw [add_eq_empty, unreleasedTokens_eq_zero s hwifi, ← hclean, ← hstrays]
  constructor
  · rintro ⟨⟨hN, hreleased⟩, hcount⟩
    exact ⟨hreleased, ⟨hN, by omega⟩, by omega⟩
  · rintro ⟨hreleased, ⟨hN, hk⟩, hown⟩
    exact ⟨⟨hN, hreleased⟩, by omega⟩

/-- An adapter that opens. -/
def plainDevice (mac : Mac) (ip : Ip4) : Device where
  named := true
  create := true
  prepared := true
  mac := mac
  ipv4 := some (ip, ip4 255 255 255 0)
  nonblock := true
  loopInit := 0
  loopStart := 0

/-- The default options on Linux, with every call succeeding. -/
def plainStartup : Startup where
  windows := false
  diagnostics := false
  dhcpServer := false
  discoverSwitch := true
  fakeInternet := false
  subnet := none
  gatewayIp := none
  relayServer := none
  socks5Server := none
  wifi := ⟨true, 0, [plainDevice (mac6 2 0 0 0 0 1) (ip4 192 168 1 2)]⟩
  zerotier := ⟨true, 0, [plainDevice (mac6 2 0 0 0 0 2) (ip4 10 147 17 5)]⟩
  guardAllocated := true
  reservation := fun _ => ⟨true, 0, 0, 0⟩
  capturePrefix := false
  openDead := true
  file := fun _ => ⟨true, true, true⟩
  flush := fun _ => true
  timerInit := 0
  timerStart := 0

def plainClosing : Closing := ⟨fun _ => true, 0, 0, 0, [true]⟩

end Grid0Relay.Lifecycle
