import Grid0Relay.Logic.UdpGuard

/-!
# What a successful start leaves

The struct after `lan_play_init` has returned zero, as a function of the struct
before and of what the options and the adapters gave. Every field that function
does not mention is still that of the previous session.
-/

namespace Grid0Relay

open Lib Lib.Exec

/-- What a start reads from the options and the adapters. -/
structure Network where
  subnetNet : Ip4
  subnetMask : Ip4
  gateway : Ip4
  wifiMac : Mac
  zerotierMac : Mac
  zerotierIp : Ip4
  zerotierNetmask : Ip4

/-- The ZeroTier address and the gateway are in the subnet. -/
def Network.Inside (n : Network) : Prop :=
  maskIp n.zerotierIp n.subnetMask = n.subnetNet ∧ maskIp n.gateway n.subnetMask = n.subnetNet

def Setup.reads (setup : Setup) : Option Network := do
  let (subnetNet, subnetMask) ← setup.network
  let gateway ← setup.gateway
  let wifiMac ← setup.wifiMac
  let zerotierMac ← setup.zerotierMac
  let (zerotierIp, zerotierNetmask) ← setup.zerotierIpv4
  some { subnetNet, subnetMask, gateway, wifiMac, zerotierMac, zerotierIp, zerotierNetmask }

/-- The Wi-Fi subnet of the struct: without an address it stays. -/
def Setup.withWifi (setup : Setup) (lp : LanPlay) : LanPlay :=
  match setup.wifiIpv4 with
  | none => lp
  | some (ip, mask) =>
    { lp with
      wifiIp := ip
      wifiNetmask := mask
      wifiSubnet := maskIp ip mask
      wifiBroadcast := fillIp (maskIp ip mask) mask
      wifiSubnetKnown := true }

/-- The sweep of the struct: it starts over when there is a timer. -/
def Setup.withDiscovery (setup : Setup) (lp : LanPlay) : LanPlay :=
  if setup.discoverSwitch then
    { lp with
      switchDiscoveryHost := 2
      switchDiscoveryPauseTicks := 0
      switchDiscoveryWifiPhase := lp.wifiSubnetKnown }
  else lp

/-- The ports reserved by every start, newest first. -/
def gamePorts : NativeUdpGuard := ⟨[49155, 49154, 49153, 49152, 35000], 5⟩

/-- The adapter half. -/
def Network.withAdapters (n : Network) (setup : Setup) (lp : LanPlay) : LanPlay :=
  { setup.withWifi { lp with wifiMac := n.wifiMac } with
    zerotierMac := n.zerotierMac
    zerotierIp := n.zerotierIp
    zerotierNetmask := n.zerotierNetmask
    zerotierBroadcastIp := fillIp n.zerotierIp n.zerotierNetmask }

/-- The struct after a start. -/
def Network.started (n : Network) (setup : Setup) (lp : LanPlay) : LanPlay :=
  setup.withDiscovery
    { n.withAdapters setup
        { lp with zerotierNeighbors := ⟨ArpTable.init, 30⟩, dhcpState := dhcpServerInit } with
      packetCtx := packetInit n.gateway n.subnetNet n.subnetMask 30
      udpGuard := some gamePorts }

theorem initWifiSubnet_eq (setup : Setup) (w : World) :
    initWifiSubnet setup w = .ok () { w with lp := setup.withWifi w.lp } := by
  unfold initWifiSubnet Setup.withWifi
  cases setup.wifiIpv4 <;> rfl

theorem initZerotier_started {setup : Setup} {wifiMac : Mac} {net mask : Ip4} {w w' : World}
    (h : initZerotier setup wifiMac net mask w = .ok 0 w') :
    ∃ mac ip netmask, setup.zerotierMac = some mac ∧ setup.zerotierIpv4 = some (ip, netmask) ∧
      maskIp ip mask = net ∧ w' = { w with
        lp := { w.lp with
          zerotierMac := mac
          zerotierIp := ip
          zerotierNetmask := netmask
          zerotierBroadcastIp := fillIp ip netmask } } := by
  unfold initZerotier at h
  cases hmac : setup.zerotierMac with
  | none => simp [hmac] at h
  | some mac =>
    cases hip : setup.zerotierIpv4 with
    | none => simp [hmac, hip, bind_apply] at h
    | some pair =>
      simp only [hmac, hip, bind_apply, modifyLp_apply, ite_run, pure_apply] at h
      split_ifs at h with hout
      · simp at h
      · simp at h
      · injection h with _ h
        exact ⟨mac, pair.1, pair.2, rfl, rfl, not_not.mp hout, h.symm⟩

theorem initAdapters_started {setup : Setup} {net mask : Ip4} {w w' : World}
    (h : initAdapters setup net mask w = .ok 0 w') (gateway : Ip4) :
    ∃ n : Network, n.subnetNet = net ∧ n.subnetMask = mask ∧ n.gateway = gateway ∧
      setup.wifiMac = some n.wifiMac ∧ setup.zerotierMac = some n.zerotierMac ∧
      setup.zerotierIpv4 = some (n.zerotierIp, n.zerotierNetmask) ∧
      maskIp n.zerotierIp mask = net ∧ w' = { w with lp := n.withAdapters setup w.lp } := by
  unfold initAdapters at h
  cases hmac : setup.wifiMac with
  | none => simp [hmac] at h
  | some wifiMac =>
    simp only [hmac] at h
    obtain ⟨_, w₁, hset, h⟩ := bind_eq_ok h
    obtain ⟨_, w₂, hwifi, h⟩ := bind_eq_ok h
    rw [modifyLp_apply] at hset
    rw [initWifiSubnet_eq] at hwifi
    injection hset with _ hset
    injection hwifi with _ hwifi
    subst hset hwifi
    obtain ⟨mac, ip, netmask, hzmac, hzip, hin, hw⟩ := initZerotier_started h
    exact ⟨⟨net, mask, gateway, wifiMac, mac, ip, netmask⟩, rfl, rfl, rfl, rfl, hzmac, hzip, hin,
      hw⟩

/-- New ports, reserved one after the other, are all in the list in the end. -/
theorem reservePorts_started {env : Env} {ports : List Nat} {w w' : World} {g : NativeUdpGuard}
    (hguard : w.lp.udpGuard = some g) (hnodup : ports.Nodup) (hnew : ∀ p ∈ ports, p ∉ g.ports)
    (h : reservePorts env ports w = .ok 0 w') :
    ∃ asked, w' = { w with
      asked
      lp := { w.lp with
        udpGuard := some ⟨ports.reverse ++ g.ports, g.count + ports.length⟩ } } := by
  induction ports generalizing w g with
  | nil =>
    injection h with _ h
    refine ⟨w.asked, ?_⟩
    rw [← h]
    simp only [List.reverse_nil, List.nil_append, List.length_nil, Nat.add_zero, ← hguard]
  | cons port rest ih =>
    obtain ⟨hfresh, hrest⟩ := List.nodup_cons.mp hnodup
    obtain ⟨ret, w₁, hreserve, h⟩ := bind_eq_ok h
    obtain ⟨w₂, hrun, hstep⟩ := nativeUdpGuardReserve_reserves env port w
    rw [hrun] at hreserve
    injection hreserve with hret hw
    subst hw
    rw [hret] at hstep
    rw [ite_run] at h
    split at h
    · -- a failed reservation makes the whole start fail
      obtain ⟨_, w₃, _, h⟩ := bind_eq_ok h
      simp at h
    · rename_i hzero
      obtain rfl := not_not.mp hzero
      cases hstep with
      | refused _ asked error => exact absurd rfl error
      | known g₁ hg₁ mem nonzero =>
        obtain rfl : g₁ = g := Option.some.inj (hg₁.symm.trans hguard)
        exact absurd mem (hnew port List.mem_cons_self)
      | opened g₁ asked hg₁ nonzero fresh room =>
        obtain rfl : g₁ = g := Option.some.inj (hg₁.symm.trans hguard)
        have hnew' : ∀ p ∈ rest, p ∉ port :: g₁.ports := by
          intro p hp hmem
          rcases List.mem_cons.mp hmem with rfl | hmem
          · exact hfresh hp
          · exact hnew p (List.mem_cons_of_mem _ hp) hmem
        obtain ⟨asked', hw'⟩ := ih rfl hrest hnew' h
        refine ⟨asked', ?_⟩
        rw [hw', List.reverse_cons, List.append_assoc, List.length_cons]
        simp only [List.singleton_append, Nat.add_assoc, Nat.add_comm 1]

theorem initServices_started {env : Env} {setup : Setup} {w w' : World}
    (h : initServices env setup w = .ok 0 w') :
    ∃ asked, w' = { w with
      asked
      lp := setup.withDiscovery { w.lp with udpGuard := some gamePorts } } := by
  unfold initServices at h
  rw [ite_run] at h
  split at h
  · simp at h
  obtain ⟨_, w₁, hclear, h⟩ := bind_eq_ok h
  rw [modifyLp_apply] at hclear
  injection hclear with _ hclear
  subst hclear
  obtain ⟨allocated, w₂, halloc, h⟩ := bind_eq_ok h
  rw [ask_apply] at halloc
  injection halloc with _ halloc
  subst halloc
  rw [ite_run] at h
  split at h
  · simp at h
  obtain ⟨_, w₃, hcreate, h⟩ := bind_eq_ok h
  rw [modifyLp_apply] at hcreate
  injection hcreate with _ hcreate
  subst hcreate
  obtain ⟨ret, w₄, hports, h⟩ := bind_eq_ok h
  rw [ite_run] at h
  split at h
  · simp at h
  rename_i hret
  obtain rfl := not_not.mp hret
  obtain ⟨asked, rfl⟩ := reservePorts_started rfl (by decide) (by simp) hports
  rw [ite_run] at h
  split at h
  · simp at h
  rw [ite_run] at h
  refine ⟨asked, ?_⟩
  unfold Setup.withDiscovery
  split at h
  · rename_i hdiscover
    obtain ⟨_, w₅, hsweep, h⟩ := bind_eq_ok h
    rw [modifyLp_apply] at hsweep
    injection hsweep with _ hsweep
    subst hsweep
    rw [ite_run] at h
    split at h
    · simp at h
    · injection h with _ h
      rw [if_pos hdiscover, ← h]
      rfl
  · rename_i hdiscover
    injection h with _ h
    rw [if_neg hdiscover, ← h]
    rfl

/-- The one description of a successful start. -/
theorem lanPlayInit_started {env : Env} {setup : Setup} {w w' : World}
    (h : lanPlayInit env setup w = .ok 0 w') :
    ∃ n asked, setup.reads = some n ∧ n.Inside ∧
      w' = { w with asked, lp := n.started setup w.lp } := by
  obtain ⟨_, w₁, htables, h⟩ := bind_eq_ok h
  rw [modifyLp_apply] at htables
  injection htables with _ htables
  subst htables
  rw [ite_run] at h
  split at h
  · simp at h
  cases hnet : setup.network with
  | none => simp [hnet] at h
  | some network =>
    obtain ⟨net, mask⟩ := network
    cases hgw : setup.gateway with
    | none => simp [hnet, hgw] at h
    | some gateway =>
      simp only [hnet, hgw, ite_run] at h
      split at h
      · simp at h
      rename_i hgateway
      split at h
      · simp at h
      obtain ⟨ret, w₂, hadapters, h⟩ := bind_eq_ok h
      rw [ite_run] at h
      split at h
      · rename_i hret
        rw [pure_apply] at h
        injection h with h
        exact absurd h hret
      rename_i hret
      obtain rfl := not_not.mp hret
      obtain ⟨n, rfl, rfl, rfl, hwifi, hmac, hip, hin, rfl⟩ :=
        initAdapters_started hadapters gateway
      obtain ⟨_, w₃, hpacket, h⟩ := bind_eq_ok h
      rw [modifyLp_apply] at hpacket
      injection hpacket with _ hpacket
      subst hpacket
      obtain ⟨asked, hw⟩ := initServices_started h
      exact ⟨n, asked, by simp [Setup.reads, hnet, hgw, hwifi, hmac, hip],
        ⟨hin, not_not.mp hgateway⟩, hw⟩

end Grid0Relay
