import Grid0Relay.Logic.Egress
import Grid0Relay.Logic.Reach
import Mathlib.Algebra.Order.BigOperators.Group.List

/-!
# Environments that bring out a branch

Which branch the gateway takes depends on two caches and on when the clock is read.
For a frame left to it there is an environment in which neither cache knows the
destination, and one in which the local cache knows it at first, if it ever can.
-/

namespace Grid0Relay

open Lib Lib.Exec

/-- Every entry of a cache has expired at last. -/
theorem exists_late (t : ArpTable) :
    ∃ late, ∀ now, late ≤ now → ∀ ip, t.lookup ip now = none := by
  refine ⟨(t.items.map ArpItem.expireAt).sum, fun now hnow ip => ?_⟩
  refine List.find?_eq_none.mpr fun item hitem => ?_
  have hle : item.expireAt ≤ (t.items.map ArpItem.expireAt).sum :=
    List.le_sum_of_mem (List.mem_map_of_mem hitem)
  simp only [Bool.and_eq_true, decide_eq_true_eq, not_and]
  omega

/-- At last a cache has a slot for any address. -/
theorem exists_takes (t : ArpTable) : ∃ late, ∀ ip, t.Takes ip late := by
  have hne : t.items ≠ [] := List.ne_nil_of_length_pos (by rw [t.size]; decide)
  refine ⟨(t.items.head hne).expireAt + 1, fun ip => ⟨_, List.head_mem hne, ?_⟩⟩
  simp [ArpTable.reusable]

/-- A calm environment with this clock. -/
def clockEnv (options : Options) (clock : Nat → Nat) : Env := { calmEnv 0 with options, clock }

theorem willing_clockEnv (options : Options) (clock : Nat → Nat) :
    Willing (clockEnv options clock) :=
  ⟨fun _ => rfl, fun _ => rfl, fun _ => rfl, fun _ => rfl⟩

theorem calm_calmEnv (now : Nat) (options : Options) : Calm { calmEnv now with options } where
  toWilling := willing_clockEnv options fun _ => now
  clock _ := rfl

/-- The neighbour cache depends only on the reading that stamps its entry. -/
theorem meetPeer_neighbors {env env' : Env} {w : World} (frame : Bytes)
    (h : env.clock w.readings = env'.clock w.readings) :
    (w.meetPeer env frame).lp.zerotierNeighbors =
      (w.meetPeer env' frame).lp.zerotierNeighbors := by
  simp only [World.meetPeer, h]

theorem readings_le_gatewayReading (w : World) (frame : Bytes) :
    w.readings ≤ gatewayReading w frame := by
  unfold gatewayReading
  split <;> omega

section Scripts

variable (options : Options) (mac : Mac) (frame : Bytes) (w : World)

/-- Neither cache knows the destination. -/
theorem exists_unknown : ∃ env : Env, env.options = options ∧
    ∀ d, AtDispatch env mac frame w d →
      d.lp.packetCtx.arpList.lookup (Frame.ipDst frame) (env.clock d.readings) = none ∧
      neighborAt env (d.tick env) (d.tick env).readings (Frame.ipDst frame) = none := by
  -- the clock stands at zero until the sender is stored, then everything has expired
  obtain ⟨late, hlate⟩ := exists_late (cacheWith w.lp frame 0)
  obtain ⟨late', hlate'⟩ := exists_late
    (w.meetPeer (calmEnv 0) frame).lp.zerotierNeighbors.arpList
  let env := clockEnv options fun n => if n ≤ gatewayReading w frame then 0 else max late late'
  have hzero : ∀ n, n ≤ gatewayReading w frame → env.clock n = 0 := fun n hn => if_pos hn
  have hend : ∀ n, gatewayReading w frame < n → env.clock n = max late late' :=
    fun n hn => if_neg (by omega)
  refine ⟨env, rfl, fun d hd => ⟨?_, ?_⟩⟩
  · rw [hd.arpList, hd.readings, hzero _ (Nat.le_refl _), hend _ (Nat.lt_succ_self _)]
    exact hlate _ (Nat.le_max_left _ _) _
  · have hpeers : (d.tick env).lp.zerotierNeighbors =
        (w.meetPeer (calmEnv 0) frame).lp.zerotierNeighbors :=
      hd.neighbors.trans (meetPeer_neighbors frame (hzero _ (readings_le_gatewayReading w frame)))
    have hreading : (d.tick env).readings = gatewayReading w frame + 1 + 1 :=
      congrArg (· + 1) hd.readings
    rw [neighborAt, hpeers, hreading, hend _ (by omega)]
    exact hlate' _ (Nat.le_max_right _ _) _

end Scripts

/-- The local cache can know the destination of a frame. -/
def Listed (lp : LanPlay) (frame : Bytes) : Prop :=
  ∃ now later, ((cacheWith lp frame now).lookup (Frame.ipDst frame) later).isSome

/-- The local cache knows the destination, and has lost it at the next reading. -/
theorem Listed.exists_known {frame : Bytes} {w : World} (h : Listed w.lp frame)
    (options : Options) (mac : Mac) : ∃ env : Env, env.options = options ∧
    ∀ d, AtDispatch env mac frame w d →
      (∃ item, d.lp.packetCtx.arpList.lookup (Frame.ipDst frame) (env.clock d.readings) =
        some item) ∧
      d.lp.packetCtx.arpList.lookup (Frame.ipDst frame) (env.clock (d.readings + 1)) = none := by
  obtain ⟨now, later, hfound⟩ := h
  obtain ⟨late, hlate⟩ := exists_late (cacheWith w.lp frame now)
  let env := clockEnv options fun n => if n ≤ gatewayReading w frame then now
    else if n = gatewayReading w frame + 1 then later else late
  have hnow : env.clock (gatewayReading w frame) = now := if_pos (Nat.le_refl _)
  have hlater : env.clock (gatewayReading w frame + 1) = later :=
    (if_neg (by omega)).trans (if_pos rfl)
  have hend : env.clock (gatewayReading w frame + 1 + 1) = late :=
    (if_neg (by omega)).trans (if_neg (by omega))
  refine ⟨env, rfl, fun d hd => ⟨?_, ?_⟩⟩
  · rw [hd.arpList, hd.readings, hnow, hlater]
    exact Option.isSome_iff_exists.mp hfound
  · rw [hd.arpList, hd.readings, hnow, hend]
    exact hlate _ (Nat.le_refl _) _

/-! ## Runs -/

section Runs

variable (mac : Mac) (lp : LanPlay) (frame : Bytes)

/-- An IPv4 frame that reaches the subnet test of `process_ipv4`. -/
def PastGateway : Prop :=
  LeftToGateway mac lp frame ∧ Frame.etherType frame = etherTypeIpv4 ∧ 34 ≤ frame.length ∧
    Frame.ipDst frame ≠ lp.packetCtx.ip ∧ ¬ isNintendoLanBroadcast (Frame.ipDst frame)

/-- A destination inside `--subnet`. -/
def ForSubnet : Prop :=
  isSubnet (Frame.ipDst frame) lp.packetCtx.subnetNet lp.packetCtx.subnetMask

/-- It is passed on as a unicast packet of `--subnet`. -/
def SubnetUnicast : Prop :=
  PastGateway mac lp frame ∧ ForSubnet lp frame ∧
    ¬ isBroadcast (Frame.ipDst frame) lp.packetCtx.subnetNet lp.packetCtx.subnetMask

end Runs

section Runs

variable {mac : Mac} {frame : Bytes} {w : World}

theorem SubnetUnicast.run_eq (h : SubnetUnicast mac w.lp frame) (env : Env) :
    ∃ d, AtDispatch env mac frame w d ∧ lanPlayZerotierPcapHandler env mac frame w =
      leaving (forwardFromZerotier env (Frame.ipDst frame) (rawPacket frame) d) := by
  obtain ⟨⟨hleft, htype, hmin, hgw, hnin⟩, hsub, hone⟩ := h
  obtain ⟨d, hd, hrun⟩ := @zerotierHandler_ipv4 env mac frame w hleft htype hmin
  refine ⟨d, hd, ?_⟩
  rw [hrun, hd.dispatch_eq, if_neg hgw, if_neg hnin, if_neg hone]
  exact congrArg leaving (if_pos hsub)

/-- Some environment sends the packet to the overlay, behind an ARP request. -/
theorem SubnetUnicast.exists_reflected (h : SubnetUnicast mac w.lp frame)
    (hsend : (rawPacket frame).Sendable) (options : Options) :
    ∃ (env : Env) (d : World) (arp : Bytes), env.options = options ∧
      d.sent = w.sent ++ [⟨.zerotier, arp⟩] ∧ lanPlayZerotierPcapHandler env mac frame w =
        leaving (lanPlaySendZerotierIpv4Broadcast env (rawPacket frame) d) := by
  obtain ⟨env, hoptions, hunknown⟩ := exists_unknown options mac frame w
  obtain ⟨d, hd, hrun⟩ := h.run_eq env
  obtain ⟨hlocal, hpeer⟩ := hunknown d hd
  let arp := zerotierArpFrame d.lp d.lp.zerotierIp (Frame.ipDst frame)
  refine ⟨env, ((d.tick env).tick env).sendZerotier arp, arp, hoptions, ?_, ?_⟩
  · exact congrArg (· ++ [⟨.zerotier, arp⟩]) hd.sent
  · rw [hrun, forwardFromZerotier_unknown hlocal, lanPlaySendZerotierIpv4_unknown hsend hpeer]
    rfl

/-- Some environment sends the packet to Wi-Fi, behind an ARP request. -/
theorem SubnetUnicast.exists_local (h : SubnetUnicast mac w.lp frame) (hlisted : Listed w.lp frame)
    (options : Options) :
    ∃ (env : Env) (d : World) (dst : Mac) (arps : List Injection), env.options = options ∧
      d.sent = w.sent ++ arps ∧ arps ≠ [] ∧ lanPlayZerotierPcapHandler env mac frame w =
        leaving (sendEther env dst etherTypeIpv4 [rawPacket frame] d) := by
  obtain ⟨env, hoptions, hknown⟩ := hlisted.exists_known options mac
  obtain ⟨d, hd, hrun⟩ := h.run_eq env
  obtain ⟨⟨item, hfirst⟩, hsecond⟩ := hknown d hd
  obtain ⟨dst, d', arps, hforward, hsent, -, harps⟩ :=
    @forwardFromZerotier_known env (Frame.ipDst frame) (rawPacket frame) d item hfirst
  exact ⟨env, d', dst, arps, hoptions, by rw [hsent, hd.sent], harps hsecond,
    by rw [hrun, hforward]⟩

end Runs

end Grid0Relay
