import Grid0Relay.Theorems.ArpCache

/-!
# Slots of the ARP caches

Two things that depend on single slots and the readings of the clock: whether the
overlay cache is ever asked to send a request of its own, and whether an address can
fill two slots at once.
-/

namespace Grid0Relay

open Lib Lib.Exec Lib.Slots

/-! ## The overlay cache does not send -/

/-- The entries for an address run out from one reading of the clock to the other. -/
def ArpTable.RunsOut (t : ArpTable) (ip : Ip4) (first second : Nat) : Prop :=
  (∃ item ∈ t.items, item.ip = ip ∧ first < item.expireAt) ∧
    ∀ item ∈ t.items, item.ip = ip → item.expireAt ≤ second
deriving Decidable

theorem ArpTable.lookup_eq_none {t : ArpTable} {ip : Ip4} {now : Nat} :
    t.lookup ip now = none ↔ ∀ item ∈ t.items, item.ip = ip → item.expireAt ≤ now := by
  simp [ArpTable.lookup]

/-- `lan_play_send_zerotier_ipv4` gets to `send_arp_request` on the neighbour context, which
has nothing to send with, exactly when it accepts the packet and the entries for the
destination run out between its two readings of the clock. -/
theorem overlay_lookup_iff (env : Env) (dst : Ip4) (packet : Payload) (w : World) :
    (∀ w', lanPlaySendZerotierIpv4 env dst packet w ≠ .error .nullPointer w') ↔
      ¬ (packet.Sendable ∧ w.lp.zerotierNeighbors.arpList.RunsOut dst (env.clock w.readings)
        (env.clock (w.readings + 1))) := by
  by_cases hlen : packet.Sendable
  swap
  · refine iff_of_true (fun w' => ?_) fun h => hlen h.1
    rw [lanPlaySendZerotierIpv4_refused hlen]
    exact fun h => by cases h
  cases hfirst : neighborAt env w w.readings dst with
  | none =>
    refine iff_of_true (fun w' => ?_) ?_
    · rw [lanPlaySendZerotierIpv4_unknown hlen hfirst, lanPlaySendZerotierIpv4Broadcast_eq,
        if_pos hlen]
      split
      · exact fun h => by cases h
      · exact fun h => by cases h
    · rintro ⟨-, ⟨item, hitem, hip, hlive⟩, -⟩
      have := ArpTable.lookup_eq_none.mp hfirst item hitem hip
      omega
  | some item =>
    cases hsecond : neighborAt env w (w.readings + 1) dst with
    | some other =>
      refine iff_of_true (fun w' => ?_) ?_
      · rw [lanPlaySendZerotierIpv4_known hlen hfirst hsecond]
        split
        · exact fun h => by cases h
        · exact fun h => by cases h
      · rintro ⟨-, -, hout⟩
        have hnone := ArpTable.lookup_eq_none.mpr hout
        rw [neighborAt, hnone] at hsecond
        cases hsecond
    | none =>
      refine iff_of_false ?_ (not_not_intro ⟨hlen, ?_, ArpTable.lookup_eq_none.mp hsecond⟩)
      · intro hnever
        exact hnever _ (lanPlaySendZerotierIpv4_expired hlen hfirst hsecond)
      · have hfound := List.find?_some hfirst
        simp only [Bool.and_eq_true, beq_iff_eq, decide_eq_true_eq] at hfound
        exact ⟨item, List.mem_of_find?_eq_some hfirst, hfound⟩

/-- The relay has just heard of the peer 10.147.17.6. -/
def neighborWorld : World :=
  plainWorld.learnArp (calmEnv 1000) .zerotierNeighbors (mac6 0x02 0 0 0 0 0x06) (ip4 10 147 17 6)

theorem overlay_lookup_fresh :
    ¬ ∃ w', lanPlaySendZerotierIpv4 (calmEnv 1029) (ip4 10 147 17 6)
      (Payload.whole (List.replicate 20 0)) neighborWorld = .error .nullPointer w' := by
  rintro ⟨w', hrun⟩
  exact (overlay_lookup_iff (calmEnv 1029) (ip4 10 147 17 6) (Payload.whole (List.replicate 20 0))
    neighborWorld).mpr (by decide +kernel) w' hrun

/-- A clock that moves on to 1030 after one reading. -/
def tickingEnv : Env :=
  { calmEnv 1029 with clock := fun n => if n ≤ neighborWorld.readings then 1029 else 1030 }

/-- The entry runs out between the readings, and a null pointer is read. -/
theorem overlay_lookup_expires :
    Forward tickingEnv neighborWorld ∧
      ∃ w', lanPlaySendZerotierIpv4 tickingEnv (ip4 10 147 17 6)
        (Payload.whole (List.replicate 20 0)) neighborWorld = .error .nullPointer w' := by
  refine ⟨⟨by decide +kernel, fun n _ => ?_⟩, ?_⟩
  · simp only [tickingEnv]
    generalize neighborWorld.readings = first
    split_ifs <;> omega
  · have hfirst : (neighborAt tickingEnv neighborWorld neighborWorld.readings
        (ip4 10 147 17 6)).isSome = true := by decide +kernel
    have hsecond : (neighborAt tickingEnv neighborWorld (neighborWorld.readings + 1)
        (ip4 10 147 17 6)).isNone = true := by decide +kernel
    obtain ⟨item, hitem⟩ := Option.isSome_iff_exists.mp hfirst
    have hlen : (Payload.whole (List.replicate 20 0)).Sendable := by decide
    exact ⟨_, lanPlaySendZerotierIpv4_expired hlen hitem (Option.isNone_iff_eq_none.mp hsecond)⟩

/-! ## One slot for each address -/

/-- At a time, no two unexpired slots hold one address. -/
def ArpTable.OneLive (t : ArpTable) (now : Nat) : Prop :=
  t.items.Pairwise fun a b => a.ip = b.ip → ¬ (now < a.expireAt ∧ now < b.expireAt)
deriving Decidable

/-- No slot that `arp_set` may overwrite comes before an unexpired one of the address. -/
def ArpTable.Unshadowed (t : ArpTable) (ip : Ip4) (now : Nat) : Prop :=
  t.items.Pairwise fun a b => ArpTable.reusable ip now a = true → b.ip = ip → b.expireAt ≤ now
deriving Decidable

namespace ArpTable

variable {t t' : ArpTable} {now ttl : Nat}

theorem oneLive_init (now : Nat) : ArpTable.init.OneLive now := by
  refine List.pairwise_replicate.mpr (Or.inr ?_)
  rintro - ⟨hlive, -⟩
  exact absurd hlive (Nat.not_lt_zero now)

theorem OneLive.mono (h : t.OneLive now) {later : Nat} (hle : now ≤ later) : t.OneLive later :=
  List.Pairwise.imp (fun hab heq hlive => hab heq ⟨by omega, by omega⟩) h

/-- The slot `arp_set` writes is the only live one of its address just when none came
behind it. -/
theorem oneLive_set (h : t.OneLive now) (hpos : 0 < ttl) {mac : Mac} {ip : Ip4}
    (hset : t.set mac ip now ttl = some t') : t'.OneLive now ↔ t.Unshadowed ip now := by
  obtain ⟨pre, a, post, hitems, hitems', ha, hpre⟩ := replaceFirst_some (set_some hset)
  rw [OneLive, hitems, List.pairwise_append, List.pairwise_cons] at h
  obtain ⟨hfront, ⟨-, hback⟩, hcross⟩ := h
  -- what the new slot and the ones behind it have to do with each other
  have hnew : (∀ b ∈ post, (⟨ip, mac, now + ttl⟩ : ArpItem).ip = b.ip →
      ¬ (now < now + ttl ∧ now < b.expireAt)) ↔ ∀ b ∈ post, b.ip = ip → b.expireAt ≤ now := by
    constructor
    · intro hall b hb hip
      have := hall b hb hip.symm
      omega
    · intro hall b hb hip
      have := hall b hb hip.symm
      omega
  rw [OneLive, hitems', List.pairwise_append, List.pairwise_cons, Unshadowed, hitems,
    List.pairwise_append, List.pairwise_cons, hnew]
  constructor
  · rintro ⟨-, ⟨hbehind, -⟩, -⟩
    refine ⟨?_, ⟨fun b hb _ => hbehind b hb, ?_⟩, fun b hb c _ hreuse => ?_⟩
    · refine List.pairwise_iff_forall_sublist.mpr fun {b c} hsub hreuse => ?_
      rw [hpre b (hsub.subset List.mem_cons_self)] at hreuse
      cases hreuse
    · refine List.pairwise_iff_forall_sublist.mpr fun {b c} hsub _ hip => ?_
      exact hbehind c (hsub.subset (by simp)) hip
    · rw [hpre b hb] at hreuse
      cases hreuse
  · rintro ⟨-, ⟨hbehind, -⟩, -⟩
    refine ⟨hfront, ⟨fun b hb => hbehind b hb ha, hback⟩, fun b hb c hc => ?_⟩
    rcases List.mem_cons.mp hc with rfl | hc
    · intro hip
      have hkept := hpre b hb
      simp only [reusable, Bool.or_eq_false_iff, beq_eq_false_iff_ne] at hkept
      exact absurd hip hkept.1.2
    · exact hcross b hb c (List.mem_cons_of_mem a hc)

/-- A full cache has no slot that may be overwritten. -/
theorem unshadowed_of_full {mac : Mac} {ip : Ip4} (hset : t.set mac ip now ttl = none) :
    t.Unshadowed ip now := by
  refine List.pairwise_iff_forall_sublist.mpr fun {b c} hsub hreuse => ?_
  rw [set_none hset b (hsub.subset List.mem_cons_self)] at hreuse
  cases hreuse

end ArpTable

/-- Calls of `arp_set` on one context from the empty cache on, each of them `meets`. -/
inductive SetRun (self : Ctx) (ttl : Nat) (meets : ArpTable → Ip4 → Nat → Prop) : World → Prop
  | init {w : World} (list : w.lp.arpList self = ArpTable.init) (same : w.lp.arpTtl self = ttl) :
      SetRun self ttl meets w
  | set {w : World} (run : SetRun self ttl meets w) (env : Env) (clock : Forward env w) (mac : Mac)
      (ip : Ip4) (ok : meets (w.lp.arpList self) ip (env.clock w.readings)) :
      SetRun self ttl meets (after (arpSet env self mac ip w))
  | between {w w' : World} (run : SetRun self ttl meets w)
      (list : w'.lp.arpList self = w.lp.arpList self)
      (same : w'.lp.arpTtl self = w.lp.arpTtl self) (time : w.time ≤ w'.time) :
      SetRun self ttl meets w'

/-- One call, from a cache with one live slot for each address. -/
theorem oneLive_arpSet {env : Env} {self : Ctx} {w : World} (clock : Forward env w)
    (hone : (w.lp.arpList self).OneLive w.time) (hpos : 0 < w.lp.arpTtl self) (mac : Mac)
    (ip : Ip4) :
    let w' := after (arpSet env self mac ip w)
    (w'.time = env.clock w.readings ∧ w'.lp.arpTtl self = w.lp.arpTtl self) ∧
      ((w'.lp.arpList self).OneLive w'.time ↔
        (w.lp.arpList self).Unshadowed ip (env.clock w.readings)) := by
  have hrun := arpSet_eq env self mac ip w
  obtain ⟨htime, hsame, hcase⟩ := arpSet_returns hrun
  have hnow := hone.mono clock.start
  rw [hrun]
  refine ⟨⟨htime, hsame⟩, ?_⟩
  rw [after_ok, htime]
  cases hset : (w.lp.arpList self).set mac ip (env.clock w.readings) (w.lp.arpTtl self) with
  | none =>
    rw [hset] at hcase
    rw [hcase.2]
    exact iff_of_true hnow (ArpTable.unshadowed_of_full hset)
  | some t =>
    rw [hset] at hcase
    rw [hcase.2]
    exact ArpTable.oneLive_set hnow hpos hset

theorem SetRun.oneLive {self : Ctx} {ttl : Nat} {w : World} (hpos : 0 < ttl)
    (run : SetRun self ttl ArpTable.Unshadowed w) :
    (w.lp.arpList self).OneLive w.time ∧ w.lp.arpTtl self = ttl := by
  induction run with
  | init list same =>
    rw [list]
    exact ⟨ArpTable.oneLive_init _, same⟩
  | set run env clock mac ip ok ih =>
    obtain ⟨⟨-, hsame⟩, hiff⟩ := oneLive_arpSet clock ih.1 (ih.2 ▸ hpos) mac ip
    exact ⟨hiff.mpr ok, hsame.trans ih.2⟩
  | between run list same time ih =>
    rw [list, same]
    exact ⟨ih.1.mono time, ih.2⟩

/-- The items a callback of `arp_for_each` is called with, whatever it returns. -/
def arpCalls (now : Nat) (ret : List ArpItem → ArpItem → Int) (items : List ArpItem) :
    List ArpItem :=
  (arpForEachItem (m := StateM (List ArpItem)) now
    (fun item called => (ret called item, called ++ [item])) items []).2

/-- They are unexpired slots in order, each called once. -/
theorem arpCalls_sublist (now : Nat) (ret : List ArpItem → ArpItem → Int) (items : List ArpItem) :
    List.Sublist (arpCalls now ret items)
      (items.filter fun item => decide (now < item.expireAt)) := by
  have hloop : ∀ (items called : List ArpItem), ∃ more,
      (arpForEachItem (m := StateM (List ArpItem)) now
        (fun item called => (ret called item, called ++ [item])) items called).2 = called ++ more ∧
      List.Sublist more (items.filter fun item => decide (now < item.expireAt)) := by
    intro items
    induction items with
    | nil => exact fun called => ⟨[], (List.append_nil called).symm, List.Sublist.refl _⟩
    | cons item rest ih =>
      intro called
      rw [arpForEachItem]
      by_cases hlive : item.expireAt > now
      · rw [if_pos hlive, List.filter_cons_of_pos (by simpa using hlive)]
        by_cases hstop : ret called item ≠ 0
        · refine ⟨[item], ?_, List.Sublist.cons_cons item (List.nil_sublist _)⟩
          show (((if ret called item ≠ 0 then pure () else _ : StateM (List ArpItem) Unit)
            (called ++ [item])).2) = called ++ [item]
          rw [if_pos hstop]
          rfl
        · obtain ⟨more, hmore, hsub⟩ := ih (called ++ [item])
          refine ⟨item :: more, ?_, List.Sublist.cons_cons item hsub⟩
          rw [List.append_cons, ← hmore]
          show (((if ret called item ≠ 0 then pure () else _ : StateM (List ArpItem) Unit)
            (called ++ [item])).2) = _
          rw [if_neg hstop]
      · rw [if_neg hlive, List.filter_cons_of_neg (by simpa using hlive)]
        exact ih called
  obtain ⟨more, hmore, hsub⟩ := hloop items []
  rw [arpCalls, hmore]
  exact hsub

theorem ArpTable.OneLive.arpCalls {t : ArpTable} {now : Nat} (h : t.OneLive now)
    (ret : List ArpItem → ArpItem → Int) :
    ((arpCalls now ret t.items).map ArpItem.ip).Nodup := by
  have hlive : (t.items.filter fun item => decide (now < item.expireAt)).Pairwise
      fun a b => a.ip ≠ b.ip := by
    rw [List.pairwise_filter]
    refine List.Pairwise.imp (fun hab ha hb heq => hab heq ⟨?_, ?_⟩) h
    · simpa using ha
    · simpa using hb
  exact List.pairwise_map.mpr (hlive.sublist (arpCalls_sublist now ret t.items))

/-- In a run of `arp_set` calls none of which finds a slot it may overwrite in front of an
unexpired one of the same address, no two unexpired slots hold one address at any time,
and `arp_for_each` calls its callback at most once for each. A further call keeps it so
exactly under the same condition. -/
theorem one_live_entry_per_address {self : Ctx} {ttl : Nat} {w : World} (hpos : 0 < ttl)
    (run : SetRun self ttl ArpTable.Unshadowed w) :
    (∀ time, w.time ≤ time → (w.lp.arpList self).OneLive time ∧
      ∀ ret, ((arpCalls time ret (w.lp.arpList self).items).map ArpItem.ip).Nodup) ∧
    ∀ (env : Env) (mac : Mac) (ip : Ip4), Forward env w →
      (((after (arpSet env self mac ip w)).lp.arpList self).OneLive (env.clock w.readings) ↔
        (w.lp.arpList self).Unshadowed ip (env.clock w.readings)) := by
  obtain ⟨hone, httl⟩ := run.oneLive hpos
  refine ⟨fun time hle => ⟨hone.mono hle, (hone.mono hle).arpCalls⟩, fun env mac ip clock => ?_⟩
  obtain ⟨⟨htime, -⟩, hiff⟩ := oneLive_arpSet clock hone (httl ▸ hpos) mac ip
  rwa [htime] at hiff

def firstPeer : Ip4 := ip4 10 147 17 6
def secondPeer : Ip4 := ip4 10 147 17 7

/-- Two peers are heard of, the second 20 seconds after the first. -/
def twoPeersWorld : World :=
  after (arpSet (calmEnv 1020) .packetCtx (mac6 0x02 0 0 0 0 0x07) secondPeer
    (after (arpSet (calmEnv 1000) .packetCtx (mac6 0x02 0 0 0 0 0x06) firstPeer plainWorld)))

theorem setRun_twoPeersWorld : SetRun .packetCtx 30 ArpTable.Unshadowed twoPeersWorld := by
  have hinit : SetRun .packetCtx 30 ArpTable.Unshadowed plainWorld :=
    .init (ArpTable.ext (by decide +kernel)) (by decide +kernel)
  refine .set (.set hinit _ ?_ _ _ (by decide +kernel)) _ ?_ _ _ (by decide +kernel)
  · exact ⟨by decide +kernel, fun _ _ => Nat.le_refl _⟩
  · exact ⟨by decide +kernel, fun _ _ => Nat.le_refl _⟩

theorem one_live_entry_per_address_two :
    (twoPeersWorld.lp.arpList .packetCtx).OneLive 1025 ∧
      ((after (arpSet (calmEnv 1025) .packetCtx (mac6 0x02 0 0 0 0 0x08) secondPeer
        twoPeersWorld)).lp.arpList .packetCtx).OneLive 1025 := by
  obtain ⟨hone, hnext⟩ := one_live_entry_per_address (by decide) setRun_twoPeersWorld
  refine ⟨(hone 1025 (by decide +kernel)).1, ?_⟩
  exact (hnext (calmEnv 1025) (mac6 0x02 0 0 0 0 0x08) secondPeer
    ⟨by decide +kernel, fun _ _ => Nat.le_refl _⟩).mpr (by decide +kernel)

/-- When the first entry has run out, the second peer gets its slot too. -/
theorem two_live_entries_for_one_address :
    SetRun .packetCtx 30 (fun _ _ _ => True) (after (arpSet (calmEnv 1031) .packetCtx
        (mac6 0x02 0 0 0 0 0x08) secondPeer twoPeersWorld)) ∧
      ¬ ((after (arpSet (calmEnv 1031) .packetCtx (mac6 0x02 0 0 0 0 0x08) secondPeer
        twoPeersWorld)).lp.arpList .packetCtx).OneLive 1031 ∧
      (arpCalls 1031 (fun _ _ => 0) ((after (arpSet (calmEnv 1031) .packetCtx
        (mac6 0x02 0 0 0 0 0x08) secondPeer twoPeersWorld)).lp.arpList .packetCtx).items).map
          ArpItem.ip = [secondPeer, secondPeer] := by
  have hinit : SetRun .packetCtx 30 (fun _ _ _ => True) plainWorld :=
    .init (ArpTable.ext (by decide +kernel)) (by decide +kernel)
  refine ⟨.set (.set (.set hinit _ ?_ _ _ trivial) _ ?_ _ _ trivial) _ ?_ _ _ trivial,
    by decide +kernel, by decide +kernel⟩
  · exact ⟨by decide +kernel, fun _ _ => Nat.le_refl _⟩
  · exact ⟨by decide +kernel, fun _ _ => Nat.le_refl _⟩
  · exact ⟨by decide +kernel, fun _ _ => Nat.le_refl _⟩

end Grid0Relay
