import Grid0Relay.Logic.ArpCache
import Grid0Relay.Logic.Reach

/-!
# The ARP cache refines a map with expiry

Over any sequence of `arp_set` calls on one `packet_ctx`, the lookups answer from the
latest successful call for their address, for as long as its entry lasts. This holds
although one address can occupy several slots at once.
-/

namespace Grid0Relay

open Lib Lib.Exec

/-- Calls of `arp_set` on one of the contexts, from the empty cache on, with the
successful ones recorded newest first. Anything may happen between them that leaves
this cache alone. -/
inductive ArpRun (self : Ctx) (ttl : Nat) : List Sighting → World → Prop
  | init {w : World} (list : w.lp.arpList self = ArpTable.init) (same : w.lp.arpTtl self = ttl) :
      ArpRun self ttl [] w
  | stored {seen : List Sighting} {w w' : World} {mac : Mac} {ip : Ip4}
      (run : ArpRun self ttl seen w) (env : Env) (clock : Forward env w)
      (result : arpSet env self mac ip w = .ok true w') :
      ArpRun self ttl (⟨ip, mac, env.clock w.readings⟩ :: seen) w'
  | full {seen : List Sighting} {w w' : World} {mac : Mac} {ip : Ip4}
      (run : ArpRun self ttl seen w) (env : Env) (clock : Forward env w)
      (result : arpSet env self mac ip w = .ok false w') : ArpRun self ttl seen w'
  | between {seen : List Sighting} {w w' : World} (run : ArpRun self ttl seen w)
      (list : w'.lp.arpList self = w.lp.arpList self)
      (same : w'.lp.arpTtl self = w.lp.arpTtl self) (time : w.time ≤ w'.time) :
      ArpRun self ttl seen w'

@[simp] theorem arpList_setArpList (lp : LanPlay) (self : Ctx) (t : ArpTable) :
    (lp.setArpList self t).arpList self = t := by
  cases self <;> rfl

@[simp] theorem arpTtl_setArpList (lp : LanPlay) (self : Ctx) (t : ArpTable) :
    (lp.setArpList self t).arpTtl self = lp.arpTtl self := by
  cases self <;> rfl

/-- What a call of `arp_set` leaves and returns. -/
theorem arpSet_returns {env : Env} {self : Ctx} {mac : Mac} {ip : Ip4} {w w' : World} {r : Bool}
    (h : arpSet env self mac ip w = .ok r w') :
    w'.time = env.clock w.readings ∧ w'.lp.arpTtl self = w.lp.arpTtl self ∧
      match (w.lp.arpList self).set mac ip (env.clock w.readings) (w.lp.arpTtl self) with
      | some t => r = true ∧ w'.lp.arpList self = t
      | none => r = false ∧ w'.lp.arpList self = w.lp.arpList self := by
  rw [arpSet_eq] at h
  injection h with hr hw
  subst hw
  refine ⟨rfl, arpTtl_setArpList _ _ _, ?_⟩
  cases hset : (w.lp.arpList self).set mac ip (env.clock w.readings) (w.lp.arpTtl self) with
  | none =>
    rw [hset] at hr
    simp [World.learnArp, hset, ← hr]
  | some t =>
    rw [hset] at hr
    simp [World.learnArp, hset, ← hr]

/-- A call keeps the record, with itself added if it returned true. -/
theorem remembers_arpSet {env : Env} {self : Ctx} {ttl : Nat} {seen : List Sighting} {mac : Mac}
    {ip : Ip4} {w w' : World} {r : Bool} (h : arpSet env self mac ip w = .ok r w')
    (clock : Forward env w) (hw : (w.lp.arpList self).Remembers ttl seen w.time)
    (httl : w.lp.arpTtl self = ttl) :
    (w'.lp.arpList self).Remembers ttl
        (if r then ⟨ip, mac, env.clock w.readings⟩ :: seen else seen) w'.time ∧
      w'.lp.arpTtl self = ttl := by
  obtain ⟨htime, hsame, hcase⟩ := arpSet_returns h
  rw [htime, hsame, httl]
  rw [httl] at hcase
  refine ⟨?_, rfl⟩
  cases hset : (w.lp.arpList self).set mac ip (env.clock w.readings) ttl with
  | none =>
    rw [hset] at hcase
    rw [hcase.1, hcase.2]
    exact hw.mono clock.start
  | some t =>
    rw [hset] at hcase
    rw [hcase.1, hcase.2]
    exact hw.set clock.start hset

theorem ArpRun.remembers {self : Ctx} {ttl : Nat} {seen : List Sighting} {w : World}
    (h : ArpRun self ttl seen w) :
    (w.lp.arpList self).Remembers ttl seen w.time ∧ w.lp.arpTtl self = ttl := by
  induction h with
  | init list same =>
    rw [list]
    exact ⟨ArpTable.remembers_init _ _, same⟩
  | stored run env clock result ih | full run env clock result ih =>
    exact remembers_arpSet result clock ih.1 ih.2
  | between run list same time ih =>
    rw [list, same]
    exact ⟨ih.1.mono time, ih.2⟩

/-- The sighting a lookup at a time goes by. -/
theorem ArpRun.lookup {self : Ctx} {ttl : Nat} {seen : List Sighting} {w : World}
    (h : ArpRun self ttl seen w) {ip : Ip4} (hip : ip ≠ noneIp) {time : Nat} (hle : w.time ≤ time)
    (item : ArpItem) : (w.lp.arpList self).lookup ip time = some item ↔
      ∃ s, latest seen ip = some s ∧ time < s.time + ttl ∧ s.item ttl = item := by
  rw [h.remembers.1.lookup hip hle]
  simp only [Option.map_eq_some_iff, Option.filter_eq_some_iff, decide_eq_true_eq, and_assoc]

/-- `arp_get_mac_by_ip` returns the MAC of the entry its scan finds. -/
theorem arpGetMacByIp_some_iff {env : Env} {self : Ctx} {ip : Ip4} {w : World} {mac : Mac} :
    (∃ w', arpGetMacByIp env self ip w = .ok (some mac) w') ↔
      ∃ item, (w.lp.arpList self).lookup ip (env.clock w.readings) = some item ∧
        item.mac = mac := by
  cases hfind : (w.lp.arpList self).lookup ip (env.clock w.readings) with
  | some item =>
    rw [arpGetMacByIp_known hfind]
    simp
  | none =>
    refine iff_of_false ?_ (by simp)
    rintro ⟨w', hrun⟩
    cases self with
    | packetCtx =>
      rw [arpGetMacByIp_unknown hfind] at hrun
      cases hrun
    | zerotierNeighbors =>
      rw [arpGetMacByIp_null hfind] at hrun
      cases hrun

/-- A call for another address changes no lookup from its time on. -/
theorem lookup_arpSet_other {env : Env} {self : Ctx} {ttl : Nat} {seen : List Sighting}
    {mac : Mac} {ip other : Ip4} {w : World} (clock : Forward env w)
    (hw : (w.lp.arpList self).Remembers ttl seen w.time) (httl : w.lp.arpTtl self = ttl)
    (hip : ip ≠ noneIp) (hother : other ≠ ip) {time : Nat} (hle : env.clock w.readings ≤ time) :
    ((after (arpSet env self mac other w)).lp.arpList self).lookup ip time =
      (w.lp.arpList self).lookup ip time := by
  have hrun := arpSet_eq env self mac other w
  obtain ⟨htime, -, -⟩ := arpSet_returns hrun
  have hw' := (remembers_arpSet hrun clock hw httl).1
  rw [hrun, after_ok, hw'.lookup hip (htime.trans_le hle),
    hw.lookup hip (Nat.le_trans clock.start hle)]
  split
  · rw [latest, List.find?_cons_of_neg (by simpa using hother), latest]
  · rfl

/-- The cache is a map with expiry. For every address but 0.0.0.0 both lookups find
exactly the latest successful `arp_set`, within its lifetime, and return its MAC; calls for
other addresses do not matter; and a call fails only when every slot is taken by another
address that has not run out. -/
theorem arp_cache_refines_map {self : Ctx} {ttl : Nat} {seen : List Sighting} {w : World}
    (run : ArpRun self ttl seen w) (env : Env) (clock : Forward env w) (ip : Ip4)
    (hip : ip ≠ noneIp) :
    ((∃ w', arpHasIp env self ip w = .ok true w') ↔
        ∃ s, latest seen ip = some s ∧ env.clock w.readings < s.time + ttl) ∧
      (∀ mac, (∃ w', arpGetMacByIp env self ip w = .ok (some mac) w') ↔
        ∃ s, latest seen ip = some s ∧ env.clock w.readings < s.time + ttl ∧ s.mac = mac) ∧
      (∀ mac other, other ≠ ip → ∀ time, env.clock w.readings ≤ time →
        ((after (arpSet env self mac other w)).lp.arpList self).lookup ip time =
          (w.lp.arpList self).lookup ip time) ∧
      ∀ mac other w', arpSet env self mac other w = .ok false w' →
        ∀ item ∈ (w.lp.arpList self).items,
          item.ip ≠ other ∧ item.ip ≠ noneIp ∧ env.clock w.readings ≤ item.expireAt := by
  have hfound := fun item => run.lookup hip clock.start item
  refine ⟨?_, fun mac => ?_, fun mac other hother time htime => ?_, fun mac other w' hfull => ?_⟩
  · rw [arpHasIp_eq]
    constructor
    · rintro ⟨w', hrun⟩
      injection hrun with hsome
      obtain ⟨item, hitem⟩ := Option.isSome_iff_exists.mp hsome
      obtain ⟨s, hs, hlive, -⟩ := (hfound item).mp hitem
      exact ⟨s, hs, hlive⟩
    · rintro ⟨s, hs, hlive⟩
      refine ⟨w.tick env, ?_⟩
      rw [(hfound (s.item ttl)).mpr ⟨s, hs, hlive, rfl⟩]
      rfl
  · rw [arpGetMacByIp_some_iff]
    constructor
    · rintro ⟨item, hitem, rfl⟩
      obtain ⟨s, hs, hlive, rfl⟩ := (hfound item).mp hitem
      exact ⟨s, hs, hlive, rfl⟩
    · rintro ⟨s, hs, hlive, rfl⟩
      exact ⟨s.item ttl, (hfound _).mpr ⟨s, hs, hlive, rfl⟩, rfl⟩
  · obtain ⟨hw, httl⟩ := run.remembers
    exact lookup_arpSet_other clock hw httl hip hother htime
  · obtain ⟨-, -, hcase⟩ := arpSet_returns hfull
    cases hset : (w.lp.arpList self).set mac other (env.clock w.readings)
        (w.lp.arpTtl self) with
    | some t =>
      rw [hset] at hcase
      cases hcase.1
    | none =>
      intro item hitem
      have hkept := ArpTable.set_none hset item hitem
      simp only [ArpTable.reusable, Bool.or_eq_false_iff, beq_eq_false_iff_ne,
        decide_eq_false_iff_not, not_lt] at hkept
      exact ⟨hkept.1.2, hkept.1.1, hkept.2⟩

theorem arp_cache_refines_map_entry :
    ∃ w', arpGetMacByIp (calmEnv 1010) .packetCtx (ip4 10 147 17 20)
      (plainWorld.learnArp (calmEnv 1000) .packetCtx (mac6 0x98 0xb6 0xe9 1 2 3)
        (ip4 10 147 17 20)) = .ok (some (mac6 0x98 0xb6 0xe9 1 2 3)) w' := by
  have hstored : arpSet (calmEnv 1000) .packetCtx (mac6 0x98 0xb6 0xe9 1 2 3)
      (ip4 10 147 17 20) plainWorld = .ok true (plainWorld.learnArp (calmEnv 1000) .packetCtx
        (mac6 0x98 0xb6 0xe9 1 2 3) (ip4 10 147 17 20)) := by
    have hroom : ((plainWorld.lp.arpList .packetCtx).set (mac6 0x98 0xb6 0xe9 1 2 3)
        (ip4 10 147 17 20) ((calmEnv 1000).clock plainWorld.readings)
        (plainWorld.lp.arpTtl .packetCtx)).isSome = true := by
      decide +kernel
    rw [arpSet_eq, hroom]
  have hinit : ArpRun .packetCtx 30 [] plainWorld :=
    .init (ArpTable.ext (by decide +kernel)) (by decide +kernel)
  have hrun : ArpRun .packetCtx 30 [⟨ip4 10 147 17 20, mac6 0x98 0xb6 0xe9 1 2 3, 1000⟩]
      (plainWorld.learnArp (calmEnv 1000) .packetCtx (mac6 0x98 0xb6 0xe9 1 2 3)
        (ip4 10 147 17 20)) :=
    .stored hinit (calmEnv 1000) ⟨by decide +kernel, fun _ _ => Nat.le_refl _⟩ hstored
  have hlatest : latest [⟨ip4 10 147 17 20, mac6 0x98 0xb6 0xe9 1 2 3, 1000⟩]
      (ip4 10 147 17 20) = some ⟨ip4 10 147 17 20, mac6 0x98 0xb6 0xe9 1 2 3, 1000⟩ := by
    decide
  refine ((arp_cache_refines_map hrun (calmEnv 1010) ⟨by decide +kernel, fun _ _ => Nat.le_refl _⟩
    (ip4 10 147 17 20) (by decide)).2.1 _).mpr ⟨_, hlatest, ?_, rfl⟩
  exact (by decide : 1010 < 1000 + 30)

end Grid0Relay
