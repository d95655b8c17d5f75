import Grid0Relay.Logic.Environments
import Grid0Relay.Theorems.ArpCache

/-!
# Overlay unicast goes to the right neighbour

The learning of `lan_play_zerotier_pcap_handler`, the slots of `zerotier_neighbors` and
the lookups of `lan_play_send_zerotier_ipv4`, together over any run of ZeroTier frames.
The clock stands still within a call, as the two lookups of one send each read it.
-/

namespace Grid0Relay

open Lib Lib.Exec Lib.Slots

/-- What the handler learns from a frame, if its `arp_set` succeeds: the address it
claims, a peer of the overlay, and its Ethernet source. -/
def sighting (env : Env) (frame : Bytes) (w : World) : Option Sighting :=
  if Skipped w.lp.zerotierMac frame then none
  else
    match newPeer w.lp frame with
    | none => none
    | some ip =>
      if (w.lp.zerotierNeighbors.arpList.set (Frame.etherSrc frame) ip (env.clock w.readings)
          w.lp.zerotierNeighbors.arpTtl).isSome then
        some ⟨ip, Frame.etherSrc frame, env.clock w.readings⟩
      else none

/-- A run of frames through the handler from a fresh cache on, with its sightings newest
first and the time of its last call. Between them anything may happen that leaves the
cache and the configuration alone. -/
inductive OverlayRun : List Sighting → Nat → World → Prop
  | init {w : World} (now : Nat) (cache : w.lp.zerotierNeighbors = ⟨ArpTable.init, 30⟩) :
      OverlayRun [] now w
  | frame {seen : List Sighting} {now time : Nat} {w : World} (run : OverlayRun seen now w)
      (later : now ≤ time) (env : Env) (clock : ∀ n, env.clock n = time) (frame : Bytes) :
      OverlayRun ((sighting env frame w).toList ++ seen) time
        (after (lanPlayZerotierPcapHandler env w.lp.zerotierMac frame w))
  | between {seen : List Sighting} {now time : Nat} {w w' : World} (run : OverlayRun seen now w)
      (later : now ≤ time) (cache : w'.lp.zerotierNeighbors = w.lp.zerotierNeighbors)
      (config : w'.lp.config = w.lp.config) : OverlayRun seen time w'

/-- An address of the overlay that belongs to somebody else. -/
def PeerAddress (c : Config) (ip : Ip4) : Prop :=
  maskIp ip c.zerotierNetmask = maskIp c.zerotierIp c.zerotierNetmask ∧ ip ≠ c.zerotierIp ∧
    ip ≠ c.zerotierBroadcastIp

/-- A slot of the neighbour cache: untouched, or learned from a peer. -/
def PeerSlot (c : Config) (item : ArpItem) : Prop :=
  item.expireAt = 0 ∨ PeerAddress c item.ip ∧ octet item.mac 0 &&& 1 = 0

theorem newPeer_some {lp : LanPlay} {frame : Bytes} {ip : Ip4} (h : newPeer lp frame = some ip) :
    PeerAddress lp.config ip ∧ octet (Frame.etherSrc frame) 0 &&& 1 = 0 := by
  unfold newPeer at h
  split at h
  · cases h
  · split at h
    · rename_i hpeer
      obtain ⟨hdest, hself, hbroadcast, hmac⟩ := hpeer
      cases h
      have hsubnet : ip = lp.zerotierBroadcastIp ∨ maskIp ip lp.zerotierNetmask =
          maskIp lp.zerotierIp lp.zerotierNetmask := by
        simpa [isZerotierDestination] using hdest
      exact ⟨⟨hsubnet.resolve_left hbroadcast, hself, hbroadcast⟩, hmac⟩
    · cases h

/-- The neighbour cache after a frame. -/
theorem zerotierHandler_neighbors (env : Env) (mac : Mac) (frame : Bytes) (w : World) :
    (after (lanPlayZerotierPcapHandler env mac frame w)).lp.zerotierNeighbors =
      if Skipped mac frame then w.lp.zerotierNeighbors
      else (w.meetPeer env frame).lp.zerotierNeighbors := by
  rw [lanPlayZerotierPcapHandler_eq]
  split
  · rfl
  · exact (steps_zerotierInput env frame : Keeps (fun w : World => w.lp.core.neighbors) _)
      (w.enterZerotier env mac frame)

/-- What holds of the neighbour cache along a run. -/
structure Neighborly (seen : List Sighting) (now : Nat) (lp : LanPlay) : Prop where
  ttl : lp.zerotierNeighbors.arpTtl = 30
  remembers : lp.zerotierNeighbors.arpList.Remembers 30 seen now
  slots : ∀ item ∈ lp.zerotierNeighbors.arpList.items, PeerSlot lp.config item

namespace Neighborly

variable {seen : List Sighting} {now time : Nat} {lp lp' : LanPlay}

theorem mono (h : Neighborly seen now lp) (hle : now ≤ time)
    (cache : lp'.zerotierNeighbors = lp.zerotierNeighbors) (config : lp'.config = lp.config) :
    Neighborly seen time lp' := by
  refine ⟨?_, ?_, ?_⟩
  · rw [cache]
    exact h.ttl
  · rw [cache]
    exact h.remembers.mono hle
  · rw [cache, config]
    exact h.slots

/-- A peer that finds a slot. -/
theorem learn (h : Neighborly seen now lp) (hle : now ≤ time) {frame : Bytes} {ip : Ip4}
    {t : ArpTable} (hpeer : newPeer lp frame = some ip)
    (hset : lp.zerotierNeighbors.arpList.set (Frame.etherSrc frame) ip time 30 = some t)
    (cache : lp'.zerotierNeighbors = ⟨t, 30⟩) (config : lp'.config = lp.config) :
    Neighborly (⟨ip, Frame.etherSrc frame, time⟩ :: seen) time lp' := by
  refine ⟨by rw [cache], ?_, ?_⟩
  · rw [cache]
    exact h.remembers.set hle hset
  · rw [cache, config]
    intro item hitem
    rcases mem_replaceFirst (ArpTable.set_some hset) hitem with rfl | hold
    · exact Or.inr (newPeer_some hpeer)
    · exact h.slots item hold

theorem frame {env : Env} {frame : Bytes} {w : World} (h : Neighborly seen now w.lp)
    (hle : now ≤ time) (clock : ∀ n, env.clock n = time) :
    Neighborly ((sighting env frame w).toList ++ seen) time
      (after (lanPlayZerotierPcapHandler env w.lp.zerotierMac frame w)).lp := by
  have hconfig := (steps_lanPlayZerotierPcapHandler env w.lp.zerotierMac frame :
    Keeps (fun w : World => w.lp.core.config) _) w
  have hcache := zerotierHandler_neighbors env w.lp.zerotierMac frame w
  rw [sighting]
  by_cases hskip : Skipped w.lp.zerotierMac frame
  · rw [if_pos hskip] at hcache ⊢
    exact h.mono hle hcache hconfig
  rw [if_neg hskip, World.meetPeer] at hcache
  rw [if_neg hskip]
  cases hpeer : newPeer w.lp frame with
  | none =>
    rw [hpeer] at hcache
    exact h.mono hle hcache hconfig
  | some ip =>
    rw [hpeer] at hcache
    simp only [clock, h.ttl] at hcache ⊢
    cases hset : w.lp.zerotierNeighbors.arpList.set (Frame.etherSrc frame) ip time 30 with
    | none =>
      rw [hset] at hcache
      refine h.mono hle (hcache.trans ?_) hconfig
      rw [Option.getD_none, ← h.ttl]
    | some t =>
      rw [hset] at hcache
      exact h.learn hle hpeer hset hcache hconfig

end Neighborly

theorem OverlayRun.neighborly {seen : List Sighting} {now : Nat} {w : World}
    (h : OverlayRun seen now w) : Neighborly seen now w.lp := by
  induction h with
  | init now cache =>
    refine ⟨by rw [cache], ?_, ?_⟩
    · rw [cache]
      exact ArpTable.remembers_init _ _
    · rw [cache]
      intro item hitem
      exact Or.inl (congrArg ArpItem.expireAt (List.eq_of_mem_replicate hitem))
  | frame run later env clock frame ih => exact ih.frame later clock
  | between run later cache config ih => exact ih.mono later cache config

/-- The frames a send to `d` at a time puts on the overlay. -/
def unicastFrames (lp : LanPlay) (seen : List Sighting) (time : Nat) (d : Ip4) (body : Bytes) :
    List Injection :=
  match (latest seen d).filter fun s => decide (time < s.time + 30) with
  | some s => [⟨.zerotier, zerotierFrame lp s.mac body⟩]
  | none => [⟨.zerotier, zerotierArpFrame lp lp.zerotierIp d⟩,
      ⟨.zerotier, zerotierFrame lp broadcastMac body⟩]

/-- Along any run every live neighbour is a peer of the overlay with an individual MAC,
and a packet for an address other than 0.0.0.0 goes to the source of the latest frame that
claimed it, if that was less than 30 seconds ago, and else to everybody after one ARP
request for it. -/
theorem overlay_unicast_to_latest {seen : List Sighting} {now time : Nat} {w : World}
    (run : OverlayRun seen now w) (later : now ≤ time) :
    (∀ item ∈ w.lp.zerotierNeighbors.arpList.items, time < item.expireAt →
      PeerAddress w.lp.config item.ip ∧ octet item.mac 0 &&& 1 = 0) ∧
    ∀ env : Env, (∀ n, env.clock n = time) → ∀ d, d ≠ noneIp → ∀ packet : Payload,
      packet.Sendable → packet.Inside →
        newFrames w (after (lanPlaySendZerotierIpv4 env d packet w)) =
          unicastFrames w.lp seen time d packet.bytes := by
  have hrun := run.neighborly
  constructor
  · intro item hitem hlive
    refine (hrun.slots item hitem).resolve_left fun hzero => ?_
    omega
  · intro env clock d hd packet hlen hin
    have hfind : ∀ n, neighborAt env w n d =
        ((latest seen d).filter fun s => decide (time < s.time + 30)).map (Sighting.item 30) := by
      intro n
      rw [neighborAt, clock]
      exact hrun.remembers.lookup hd later
    rw [unicastFrames]
    cases hlatest : (latest seen d).filter fun s => decide (time < s.time + 30) with
    | some s =>
      rw [hlatest] at hfind
      rw [lanPlaySendZerotierIpv4_known hlen (hfind _) (hfind _), if_pos hin]
      refine newFrames_append ?_
      rfl
    | none =>
      rw [hlatest] at hfind
      rw [lanPlaySendZerotierIpv4_unknown hlen (hfind _), lanPlaySendZerotierIpv4Broadcast_eq,
        if_pos hlen, if_pos hin]
      refine newFrames_append ?_
      exact List.append_assoc _ _ _

/-- An ARP request by which a peer claims an address. -/
def peerHello (mac : Mac) (ip : Ip4) : Bytes :=
  etherHeader broadcastMac mac etherTypeArp ++
    arpBody arpOpcodeRequest mac ip noneMac (ip4 10 147 17 5)

def peerMac : Mac := mac6 0x02 0 0 0 0 0x06

theorem overlay_unicast_to_peer :
    newFrames (after (lanPlayZerotierPcapHandler (calmEnv 1000) plainWorld.lp.zerotierMac
        (peerHello peerMac (ip4 10 147 17 6)) plainWorld))
      (after (lanPlaySendZerotierIpv4 (calmEnv 1029) (ip4 10 147 17 6)
        (Payload.whole (List.replicate 20 0)) (after (lanPlayZerotierPcapHandler (calmEnv 1000)
          plainWorld.lp.zerotierMac (peerHello peerMac (ip4 10 147 17 6)) plainWorld)))) =
      unicastFrames (after (lanPlayZerotierPcapHandler (calmEnv 1000) plainWorld.lp.zerotierMac
        (peerHello peerMac (ip4 10 147 17 6)) plainWorld)).lp
        [⟨ip4 10 147 17 6, peerMac, 1000⟩] 1029 (ip4 10 147 17 6) (List.replicate 20 0) := by
  have hseen : sighting (calmEnv 1000) (peerHello peerMac (ip4 10 147 17 6)) plainWorld =
      some ⟨ip4 10 147 17 6, peerMac, 1000⟩ := by
    decide +kernel
  have hinit : OverlayRun [] 1000 plainWorld :=
    .init 1000 (NeighborCtx.ext (ArpTable.ext (by decide +kernel)) (by decide +kernel))
  have hrun := hinit.frame (Nat.le_refl _) (calmEnv 1000) (fun _ => rfl)
    (peerHello peerMac (ip4 10 147 17 6))
  rw [hseen] at hrun
  exact (overlay_unicast_to_latest hrun (by decide : 1000 ≤ 1029)).2 (calmEnv 1029)
    (fun _ => rfl) _ (by decide) _ (by decide) (by decide)

/-- A ZeroTier adapter without a netmask: every address is on the overlay. -/
def openWorld : World :=
  after (lanPlayInit (calmEnv 1000)
    { plainSetup (ip4 10 147 17 5) (mac6 0x02 0 0 0 0 0x20) with
      subnet := some "0.0.0.0/0"
      zerotierIpv4 := some (ip4 10 147 17 5, noneIp) } World.boot)

/-- A peer has claimed 0.0.0.0 there. -/
def claimedWorld : World :=
  after (lanPlayZerotierPcapHandler (calmEnv 1000) openWorld.lp.zerotierMac
    (peerHello (mac6 0x02 0 0 0 0 0x07) noneIp) openWorld)

/-- Another peer has taken its slot, which counts as empty. -/
def evictedWorld : World :=
  after (lanPlayZerotierPcapHandler (calmEnv 1000) claimedWorld.lp.zerotierMac
    (peerHello peerMac (ip4 10 147 17 6)) claimedWorld)

/-- On an overlay that contains 0.0.0.0 a packet for it is broadcast although a peer has
just claimed it. -/
theorem claimed_zero_address_broadcast :
    Reachable openWorld ∧
      OverlayRun [⟨ip4 10 147 17 6, peerMac, 1000⟩, ⟨noneIp, mac6 0x02 0 0 0 0 0x07, 1000⟩]
        1000 evictedWorld ∧
      PeerAddress evictedWorld.lp.config noneIp ∧
      newFrames evictedWorld (after (lanPlaySendZerotierIpv4 (calmEnv 1000) noneIp
        (Payload.whole (List.replicate 20 0)) evictedWorld)) ≠
        unicastFrames evictedWorld.lp
          [⟨ip4 10 147 17 6, peerMac, 1000⟩, ⟨noneIp, mac6 0x02 0 0 0 0 0x07, 1000⟩]
          1000 noneIp (List.replicate 20 0) := by
  have hsightings : sighting (calmEnv 1000) (peerHello (mac6 0x02 0 0 0 0 0x07) noneIp) openWorld =
        some ⟨noneIp, mac6 0x02 0 0 0 0 0x07, 1000⟩ ∧
      sighting (calmEnv 1000) (peerHello peerMac (ip4 10 147 17 6)) claimedWorld =
        some ⟨ip4 10 147 17 6, peerMac, 1000⟩ := by decide +kernel
  obtain ⟨hfirst, hsecond⟩ := hsightings
  have hinit : OverlayRun [] 1000 openWorld :=
    .init 1000 (NeighborCtx.ext (ArpTable.ext (by decide +kernel)) (by decide +kernel))
  have hclaimed : OverlayRun [⟨noneIp, mac6 0x02 0 0 0 0 0x07, 1000⟩] 1000 claimedWorld := by
    have hrun := hinit.frame (Nat.le_refl _) (calmEnv 1000) (fun _ => rfl)
      (peerHello (mac6 0x02 0 0 0 0 0x07) noneIp)
    rw [hfirst] at hrun
    exact hrun
  have hevicted := hclaimed.frame (Nat.le_refl _) (calmEnv 1000) (fun _ => rfl)
    (peerHello peerMac (ip4 10 147 17 6))
  rw [hsecond] at hevicted
  refine ⟨Reachable.of_start (by decide +kernel), hevicted, ?_⟩
  unfold PeerAddress
  decide +kernel

end Grid0Relay
