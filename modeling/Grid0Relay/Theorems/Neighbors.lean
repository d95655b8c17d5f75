import Grid0Relay.Logic.Gateway
import Grid0Relay.Logic.Reach

/-!
# The two ARP caches

The overlay never reaches the neighbour cache of the other side: a Wi-Fi frame
leaves `zerotier_neighbors` alone. The converse fails. A ZeroTier frame the relay
declines goes through `get_packet`, whose `process_arp` and `process_ipv4` enter
its sender in the local cache; `Intrudes` says exactly when that shows.
-/

namespace Grid0Relay

open Lib Lib.Exec Lib.Slots

/-- Storing an entry changes nothing when there is no slot for it, or when the slot
holds that very entry. -/
theorem set_getD_eq_self (t : ArpTable) (mac : Mac) (ip : Ip4) (now ttl : Nat) :
    (t.set mac ip now ttl).getD t = t ↔
      ∀ item, t.items.find? (ArpTable.reusable ip now) = some item →
        item = ⟨ip, mac, now + ttl⟩ := by
  unfold ArpTable.set
  split
  · rename_i items h
    obtain ⟨a, hfind, hsame⟩ := replaceFirst_eq_self h
    rw [Option.getD_some, ArpTable.ext_iff, hfind]
    simpa using hsame
  · rename_i h
    rw [List.find?_eq_none.mpr (by simpa using replaceFirst_none.mp h)]
    simp

/-- The entry `process_arp` or `process_ipv4` takes from a frame. -/
def gatewayEntry (frame : Bytes) : Option (Mac × Ip4) :=
  if Frame.etherType frame = etherTypeArp then
    if 42 ≤ frame.length ∧ ArpFields frame then
      some (Frame.arpSenderMac frame, Frame.arpSenderIp frame)
    else none
  else if Frame.etherType frame = etherTypeIpv4 then
    if 34 ≤ frame.length then some (Frame.etherSrc frame, Frame.ipSrc frame) else none
  else none

/-- The local cache after `process_ether`. -/
theorem processEther_arpList {env : Env} {frame : Bytes} {w : World} (hmin : 14 ≤ frame.length)
    (hsrc : Frame.etherSrc frame ≠ w.lp.packetCtx.mac) :
    (after (processEther env frame w)).lp.packetCtx.arpList =
      match gatewayEntry frame with
      | none => w.lp.packetCtx.arpList
      | some (mac, ip) => (w.lp.packetCtx.arpList.set mac ip (env.clock w.readings)
          w.lp.packetCtx.arpTtl).getD w.lp.packetCtx.arpList := by
  have hkeep : ∀ {α : Type} (x : RelayM α),
      Steps (Same fun w : World => Core.arpList w.lp.core) x → ∀ w,
      (after (x w)).lp.packetCtx.arpList = w.lp.packetCtx.arpList := fun x h w => h w
  rw [processEther_eq env frame _ hmin, if_neg hsrc, gatewayEntry]
  by_cases harp : Frame.etherType frame = etherTypeArp
  · rw [if_pos harp, if_pos harp]
    by_cases hlen : 42 ≤ frame.length
    · rw [processArp_eq env frame _ hlen]
      by_cases hfields : ArpFields frame
      · rw [if_pos hfields, if_pos ⟨hlen, hfields⟩, hkeep _ (steps_dispatchArp env _)]
        rfl
      · rw [if_neg hfields, if_neg fun h => hfields h.2]
        rfl
    · rw [processArp_short (by omega), if_neg fun h => hlen h.1]
      rfl
  · rw [if_neg harp, if_neg harp]
    by_cases hip : Frame.etherType frame = etherTypeIpv4
    · rw [if_pos hip, if_pos hip]
      by_cases hlen : 34 ≤ frame.length
      · rw [processIpv4_eq env frame _ hlen, if_pos hlen, hkeep _ (steps_dispatchIpv4 env _ _ _)]
        rfl
      · rw [processIpv4_short (by omega), if_neg hlen]
        rfl
    · rw [if_neg hip, if_neg hip]
      rfl

/-- The time the gateway stamps an entry with. -/
def gatewayTime (env : Env) (w : World) (frame : Bytes) : Nat :=
  env.clock (gatewayReading w frame)

/-- A ZeroTier frame whose sender is written into the local cache: the gateway gets
it, it carries an entry, and a slot is free for one it does not hold already. -/
def Intrudes (env : Env) (mac : Mac) (w : World) (frame : Bytes) : Prop :=
  LeftToGateway mac w.lp frame ∧ ∃ sender ip item, gatewayEntry frame = some (sender, ip) ∧
    w.lp.packetCtx.arpList.items.find?
      (ArpTable.reusable ip (gatewayTime env w frame)) = some item ∧
    item ≠ ⟨ip, sender, gatewayTime env w frame + w.lp.packetCtx.arpTtl⟩

/-- The local cache after a ZeroTier frame. -/
theorem zerotierHandler_arpList (env : Env) (mac : Mac) (w : World) (frame : Bytes) :
    (after (lanPlayZerotierPcapHandler env mac frame w)).lp.packetCtx.arpList =
      if LeftToGateway mac w.lp frame then
        match gatewayEntry frame with
        | none => w.lp.packetCtx.arpList
        | some (sender, ip) => (w.lp.packetCtx.arpList.set sender ip (gatewayTime env w frame)
            w.lp.packetCtx.arpTtl).getD w.lp.packetCtx.arpList
      else w.lp.packetCtx.arpList := by
  by_cases hleft : LeftToGateway mac w.lp frame
  · obtain ⟨warned, hrun⟩ := @zerotierHandler_left env mac frame w hleft
    rw [if_pos hleft, hrun, arpList_leaving,
      processEther_arpList hleft.length.1 fun h => hleft.1 (Or.inr h)]
    rfl
  · obtain ⟨w', hrun, hlist, _⟩ := @zerotierHandler_kept env mac frame w hleft
    rw [if_neg hleft, hrun, after_ok, hlist]

/-- **Cache isolation.** A Wi-Fi frame never touches the neighbour cache, and a
ZeroTier frame leaves the local cache alone exactly when it does not intrude. -/
theorem cache_isolation (env : Env) (mac mac' : Mac) (w : World) (frame frame' : Bytes) :
    ((after (lanPlayZerotierPcapHandler env mac frame w)).lp.packetCtx.arpList =
        w.lp.packetCtx.arpList ∧
      (after (lanPlayPcapHandler env mac' frame' w)).lp.zerotierNeighbors.arpList =
        w.lp.zerotierNeighbors.arpList) ↔
      ¬ Intrudes env mac w frame := by
  have hneighbors : (after (lanPlayPcapHandler env mac' frame' w)).lp.zerotierNeighbors.arpList =
      w.lp.zerotierNeighbors.arpList :=
    congrArg NeighborCtx.arpList ((steps_lanPlayPcapHandler env mac' frame' :
      Keeps (fun w : World => w.lp.core.neighbors) _) w)
  rw [and_iff_left hneighbors, zerotierHandler_arpList]
  by_cases hleft : LeftToGateway mac w.lp frame
  · rw [if_pos hleft]
    cases hentry : gatewayEntry frame with
    | none =>
      refine iff_of_true rfl ?_
      rintro ⟨_, sender, ip, item, h, _⟩
      simp [hentry] at h
    | some entry =>
      obtain ⟨sender, ip⟩ := entry
      refine (set_getD_eq_self _ _ _ _ _).trans ⟨?_, ?_⟩
      · rintro hall ⟨_, sender', ip', item, h, hfind, hne⟩
        obtain ⟨rfl, rfl⟩ : sender = sender' ∧ ip = ip' := by simpa [hentry] using h
        exact hne (hall item hfind)
      · intro hno item hfind
        by_contra hne
        exact hno ⟨hleft, sender, ip, item, hentry, hfind, hne⟩
  · rw [if_neg hleft]
    exact iff_of_true rfl fun h => hleft h.1

/-- An ARP request from the overlay that claims the console's address. -/
def claimFrame : Bytes :=
  etherHeader broadcastMac (mac6 0x02 0 0 0 0 0x66) etherTypeArp ++
    arpBody arpOpcodeRequest (mac6 0x02 0 0 0 0 0x66) (ip4 10 147 17 20) noneMac
      (ip4 10 147 17 5)

/-- It takes over the console's entry in the local cache. -/
theorem local_cache_overwritten :
    Reachable consoleWorld ∧
      (consoleWorld.lp.packetCtx.arpList.lookup (ip4 10 147 17 20) 1000).map ArpItem.mac =
        some (mac6 0x98 0xb6 0xe9 1 2 3) ∧
      ((after (lanPlayZerotierPcapHandler (calmEnv 1000) consoleWorld.lp.zerotierMac claimFrame
        consoleWorld)).lp.packetCtx.arpList.lookup (ip4 10 147 17 20) 1000).map ArpItem.mac =
        some (mac6 0x02 0 0 0 0 0x66) ∧
      (after (lanPlayZerotierPcapHandler (calmEnv 1000) consoleWorld.lp.zerotierMac claimFrame
        consoleWorld)).lp.packetCtx.arpList.items ≠ consoleWorld.lp.packetCtx.arpList.items :=
  ⟨consoleWorld_reachable, by decide +kernel⟩

end Grid0Relay
