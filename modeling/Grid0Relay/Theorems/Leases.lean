import Grid0Relay.Logic.DhcpServer

/-!
# Leases over whole runs

The lease table invariant, and how long an acknowledged lease is honoured. Both are
about `Serving`: any frames, any clock that does not run backwards, and anything
between two frames that leaves the leases alone.
-/

namespace Grid0Relay

open Lib Lib.Exec

/-! ## What one message preserves -/

theorem Forward.swept {env : Env} {w : World} (h : Forward env w) : Forward env (w.swept env) :=
  ⟨h.tick.start, h.tick.mono⟩

namespace Handled

variable {env : Env} {mac : Mac} {req : DhcpRequest} {w : World} {view : DhcpView}

theorem time_le (h : Handled env mac req w view) (hclock : Forward env w) :
    w.time ≤ view.time := by
  have hpick : ∀ {r : Option Ip4} {w' : World}, Picked env mac w r w' →
      w.time ≤ w'.time ∧ w'.time ≤ env.clock w'.readings := by
    intro r w' hpicked
    have hforward := hpicked.waits.forward hclock.tick
    exact ⟨Nat.le_trans hclock.start (hpicked.waits.time_le hclock.tick), hforward.start⟩
  cases h with
  | silent waits => exact waits.time_le hclock
  | discovered nintendo discover discovered =>
    cases discovered with
    | noAddress picked => exact (hpick picked).1
    | noSlot picked full | offered picked claimed reply =>
      exact Nat.le_trans (hpick picked).1 (hpick picked).2
  | acked nintendo own claimed reply => exact Nat.le_trans hclock.start hclock.tick.start
  | refused reply => exact hclock.start
  | released release => exact Nat.le_refl _

/-- A claim for a picked address keeps the slots apart. -/
theorem exclusive_claim {ip : Ip4} {w' : World} {t : LeaseTable} {expires now : Nat} {offer : Bool}
    (picked : Picked env mac w (some ip) w') (hclock : Forward env w)
    (hw : w.lp.dhcpState.leases.Exclusive w.time) (hnow : env.clock w.readings ≤ now)
    (claimed : w.lp.dhcpState.leases.claim ⟨mac, ip, expires, offer, true⟩ = some t) :
    t.Exclusive now := by
  have hpick := hw.mono hclock.start
  have hfree := (picked.free hpick).mono hnow
  exact (hpick.mono hnow).claim hfree claimed

theorem exclusive (h : Handled env mac req w view) (hclock : Forward env w)
    (hw : w.lp.dhcpState.leases.Exclusive w.time) : view.leases.Exclusive view.time := by
  have htime := h.time_le hclock
  have hlater : ∀ {w' : World}, Waits env w w' → w'.lp.dhcpState.leases.Exclusive w'.time := by
    intro w' hwaits
    rw [hwaits.lp]
    exact hw.mono (hwaits.time_le hclock)
  cases h with
  | silent waits => exact hlater waits
  | discovered nintendo discover discovered =>
    cases discovered with
    | noAddress picked => exact hlater ((Waits.tick .here).trans picked.waits)
    | noSlot picked full => exact hlater ((Waits.tick .here).trans picked.waits).tick
    | offered picked claimed reply =>
      have hforward := picked.waits.forward hclock.tick
      refine exclusive_claim picked hclock hw ?_ claimed
      exact Nat.le_trans (picked.waits.time_le hclock.tick) hforward.start
  | acked nintendo own claimed reply =>
    exact exclusive_claim (Picked.own own) hclock hw hclock.tick.start claimed
  | refused reply => exact hw.mono htime
  | released release => exact hw.release mac

theorem permitted (h : Handled env mac req w view)
    (hpos : 0 < (ipv4ToU32 w.lp.zerotierBroadcastIp).toNat)
    (hw : w.lp.dhcpState.leases.Permitted w.lp.config) : view.leases.Permitted w.lp.config := by
  have hlater : ∀ {w' : World}, Waits env w w' →
      w'.lp.dhcpState.leases.Permitted w.lp.config := by
    intro w' hwaits
    rw [hwaits.lp]
    exact hw
  cases h with
  | silent waits => exact hlater waits
  | discovered nintendo discover discovered =>
    cases discovered with
    | noAddress picked => exact hlater ((Waits.tick .here).trans picked.waits)
    | noSlot picked full => exact hlater ((Waits.tick .here).trans picked.waits).tick
    | offered picked claimed reply =>
      exact hw.claim nintendo (picked.leaseAddress hw hpos) claimed
  | acked nintendo own claimed reply =>
    refine hw.claim ?_ ?_ claimed
    · exact nintendo
    · exact (Picked.own own).leaseAddress hw hpos
  | refused reply => exact hw
  | released release => exact hw.release mac

end Handled

namespace Consumed

variable {env : Env} {frame : Bytes} {w : World} {view : DhcpView}

theorem time_le (h : Consumed env frame w view) (hclock : Forward env w) :
    w.time ≤ view.time := by
  cases h with
  | ignored => exact Nat.le_refl _
  | handled serves parses handled =>
    exact Nat.le_trans hclock.start (handled.time_le hclock.swept)

theorem exclusive (h : Consumed env frame w view) (hclock : Forward env w)
    (hw : w.lp.dhcpState.leases.Exclusive w.time) : view.leases.Exclusive view.time := by
  cases h with
  | ignored => exact hw
  | handled serves parses handled =>
    exact handled.exclusive hclock.swept ((hw.mono hclock.start).sweep _)

theorem permitted (h : Consumed env frame w view)
    (hpos : 0 < (ipv4ToU32 w.lp.zerotierBroadcastIp).toNat)
    (hw : w.lp.dhcpState.leases.Permitted w.lp.config) : view.leases.Permitted w.lp.config := by
  cases h with
  | ignored => exact hw
  | handled serves parses handled => exact handled.permitted hpos (hw.sweep _)

end Consumed

/-! ## Runs -/

/-- A run of the server from `w`. Every frame comes with its own environment, so with
any readings of the clock; `may` restricts the frames and `idle` what happens between
them. Nothing but the server touches the leases. -/
inductive Serving (idle : World → World → Prop) (may : Env → Bytes → World → Prop) (w : World) :
    World → Prop
  | start : Serving idle may w w
  | consume {w' : World} (run : Serving idle may w w') (env : Env) (frame : Bytes)
      (clock : Forward env w') (meets : may env frame w') :
      Serving idle may w (after (dhcpServerConsume env frame w'))
  | between {w' w'' : World} (run : Serving idle may w w')
      (leases : w''.lp.dhcpState.leases = w'.lp.dhcpState.leases) (time : w'.time ≤ w''.time)
      (idles : idle w' w'') : Serving idle may w w''

namespace Serving

variable {idle : World → World → Prop} {may : Env → Bytes → World → Prop} {w w' : World}

theorem exclusive (h : Serving idle may w w') (hw : w.lp.dhcpState.leases.Exclusive w.time) :
    w'.lp.dhcpState.leases.Exclusive w'.time := by
  induction h with
  | start => exact hw
  | consume run env frame clock meets ih => exact (consumed env frame _).exclusive clock ih
  | between run leases time idles ih =>
    rw [leases]
    exact ih.mono time

end Serving

/-- The configuration stays between frames; the caches and the console may change. -/
abbrev SameConfig : World → World → Prop := Same fun w => w.lp.config

theorem Serving.config {may : Env → Bytes → World → Prop} {w w' : World}
    (h : Serving SameConfig may w w') : w'.lp.config = w.lp.config := by
  induction h with
  | start => rfl
  | @consume w' run env frame clock meets ih =>
    have hkeep := (steps_dhcpServerConsume env frame :
      Keeps (fun w : World => w.lp.core.config) _) w'
    exact hkeep.trans ih
  | between run leases time idles ih => exact Eq.trans idles ih

theorem Serving.permitted {may : Env → Bytes → World → Prop} {w w' : World} {c : Config}
    (h : Serving SameConfig may w w') (hconfig : w.lp.config = c)
    (hpos : 0 < (ipv4ToU32 c.zerotierBroadcastIp).toNat)
    (hw : w.lp.dhcpState.leases.Permitted c) : w'.lp.dhcpState.leases.Permitted c := by
  induction h with
  | start => exact hw
  | @consume w' run env frame clock meets ih =>
    have hc : w'.lp.config = c := run.config.trans hconfig
    subst hc
    exact (consumed env frame w').permitted hpos ih
  | between run leases time idles ih =>
    rw [leases]
    exact ih

/-! ## A session with two consoles -/

/-- A plain session with the server switched on, at one time of day. -/
def serverEnv (now : Nat) : Env := { calmEnv now with options := ⟨false, true, none⟩ }

/-- A client message without padding. -/
def clientFrame (mac : Mac) (msgType : UInt8) (options : Bytes) : Bytes :=
  let message : Bytes := [1, 1, 6, 0] ++ List.replicate 24 0 ++ mac.toList ++
    List.replicate 202 0 ++ [0x63, 0x82, 0x53, 0x63, 53, 1, msgType] ++ options ++ [255]
  let udp : Bytes := Bytes.bytes16 68 ++ Bytes.bytes16 67 ++
    Bytes.bytes16 (8 + message.length) ++ [0, 0]
  let header : Bytes := [0x45, 0] ++ Bytes.bytes16 (28 + message.length) ++
    [0, 0, 0, 0, 64, ipv4ProtocolUdp, 0, 0, 0, 0, 0, 0, 255, 255, 255, 255]
  etherHeader broadcastMac mac etherTypeIpv4 ++ header ++ udp ++ message

def firstConsole : Mac := mac6 0x98 0xb6 0xe9 1 2 3
def secondConsole : Mac := mac6 0x98 0xb6 0xe9 4 5 6

def discoverFrame (mac : Mac) : Bytes := clientFrame mac dhcpMsgDiscover []

def requestFrame (mac : Mac) (ip : Ip4) : Bytes :=
  clientFrame mac dhcpMsgRequest (dhcpOpt 50 ip.toList)

/-- The first console has been offered the relay's address. -/
def offeredWorld : World :=
  after (dhcpServerConsume (serverEnv 1000) (discoverFrame firstConsole) plainWorld)

/-- It has been acknowledged. -/
def ackedWorld : World :=
  after (dhcpServerConsume (serverEnv 1000) (requestFrame firstConsole (ip4 10 147 17 5))
    offeredWorld)

theorem empty_plainWorld : plainWorld.lp.dhcpState.leases = LeaseTable.init :=
  LeaseTable.ext (by decide +kernel)

theorem forward_serverEnv {now : Nat} {w : World} (h : w.time ≤ now) : Forward (serverEnv now) w :=
  ⟨h, fun _ _ => Nat.le_refl _⟩

/-! ## The lease table invariant -/

/-- From an empty table on, at every time `now` after a run: no two slots hold one MAC
or, unexpired, one address, every used slot belongs to a Nintendo MAC, and every leased
address is one the server may lease. The same holds of the table while the next
message is handled, which is the swept one until its own slot is written. -/
theorem lease_table_sound {c : Config} {w w' : World}
    (hempty : w.lp.dhcpState.leases = LeaseTable.init) (hconfig : w.lp.config = c)
    (hip : c.zerotierIp ≠ noneIp)
    (hbroadcast : c.zerotierBroadcastIp = fillIp c.zerotierIp c.zerotierNetmask)
    (run : Serving SameConfig (fun _ _ _ => True) w w') (now : Nat) (hnow : w'.time ≤ now) :
    (w'.lp.dhcpState.leases.Exclusive now ∧ w'.lp.dhcpState.leases.Permitted c) ∧
      (dhcpSweepExpired w'.lp.dhcpState.leases now).Exclusive now ∧
      (dhcpSweepExpired w'.lp.dhcpState.leases now).Permitted c := by
  have hpos : 0 < (ipv4ToU32 c.zerotierBroadcastIp).toNat := by
    rw [hbroadcast]
    exact ipv4ToU32_fillIp_pos _ hip
  have hexclusive : w'.lp.dhcpState.leases.Exclusive w'.time :=
    run.exclusive (hempty ▸ LeaseTable.exclusive_init _)
  have hpermitted : w'.lp.dhcpState.leases.Permitted c :=
    run.permitted hconfig hpos (hempty ▸ LeaseTable.permitted_init c)
  have hlater := hexclusive.mono hnow
  exact ⟨⟨hlater, hpermitted⟩, hlater.sweep now, hpermitted.sweep now⟩

theorem lease_table_sound_offered :
    (∃ l ∈ offeredWorld.lp.dhcpState.leases.slots, l.used) ∧
      (offeredWorld.lp.dhcpState.leases.Exclusive 1000 ∧
        offeredWorld.lp.dhcpState.leases.Permitted plainWorld.lp.config) ∧
      (dhcpSweepExpired offeredWorld.lp.dhcpState.leases 1000).Exclusive 1000 ∧
      (dhcpSweepExpired offeredWorld.lp.dhcpState.leases 1000).Permitted plainWorld.lp.config := by
  have hrun : (∃ l ∈ offeredWorld.lp.dhcpState.leases.slots, l.used) ∧
      offeredWorld.time ≤ 1000 ∧ plainWorld.time ≤ 1000 ∧
      plainWorld.lp.config.zerotierIp ≠ noneIp ∧
      plainWorld.lp.config.zerotierBroadcastIp =
        fillIp plainWorld.lp.config.zerotierIp plainWorld.lp.config.zerotierNetmask := by
    decide +kernel
  obtain ⟨hused, htime, hstart, hip, hbroadcast⟩ := hrun
  refine ⟨hused, lease_table_sound empty_plainWorld rfl hip hbroadcast ?_ 1000 htime⟩
  exact .consume .start _ _ (forward_serverEnv hstart) trivial

/-! ## Acknowledged leases -/

/-- The address is bound to the client until the deadline, or the deadline has passed. -/
def BoundUntil (view : DhcpView) (mac : Mac) (ip : Ip4) (deadline : Nat) : Prop :=
  deadline ≤ view.time ∨
    ∃ l ∈ view.leases.slots, l.used ∧ l.mac = mac ∧ l.ip = ip ∧ deadline ≤ l.expires

/-- A DISCOVER of the client leaves its lease at least as long as it is. -/
def NoShortening (a : Mac) (env : Env) (frame : Bytes) (w : World) : Prop :=
  Frame.etherSrc frame = a → messageType frame = some dhcpMsgDiscover →
    ∀ l ∈ w.lp.dhcpState.leases.slots, l.used → l.mac = a →
      l.expires ≤ env.clock (w.readings + 2) + dhcpOfferTime

/-- A RELEASE of the client is handled. -/
def Releases (a : Mac) (env : Env) (frame : Bytes) (w : World) : Prop :=
  Serves env w ∧ Frame.etherSrc frame = a ∧ messageType frame = some dhcpMsgRelease

/-- The client's own slot is the one a lookup finds. -/
theorem ownLease_eq {w : World} {l l' : DhcpLease} {now time : Nat}
    (hw : w.lp.dhcpState.leases.Exclusive time) (hl : l ∈ w.lp.dhcpState.leases.slots)
    (hused : l.used) (own : ownLease w.lp l.mac now = some l') : l' = l := by
  obtain ⟨hl', hused', hmac', -⟩ := ownLease_some own
  exact hw.unique hl' hl hused' hused hmac'

/-- A client whose slot a lookup does not find has let its lease run out. -/
theorem expired_of_ownLease_none {w : World} {l : DhcpLease} {now time : Nat}
    (hw : w.lp.dhcpState.leases.Exclusive time) (hl : l ∈ w.lp.dhcpState.leases.slots)
    (hused : l.used) (none : ownLease w.lp l.mac now = none) : l.expires ≤ now := by
  have hfind : (dhcpFindMac w.lp.dhcpState.leases l.mac).isSome :=
    List.find?_isSome.mpr ⟨l, hl, (l.ownedBy_iff l.mac).mpr ⟨hused, rfl⟩⟩
  obtain ⟨l', hl'⟩ := Option.isSome_iff_exists.mp hfind
  by_contra hlive
  have hown' := (l'.ownedBy_iff l.mac).mp (List.find?_some hl')
  have hsame := hw.unique (List.mem_of_find?_eq_some hl') hl hown'.1 hused hown'.2
  rw [ownLease, hl', hsame, Option.filter_some_pos (by simpa using hlive)] at none
  cases none

theorem boundUntil_handled {env : Env} {mac a : Mac} {req : DhcpRequest} {w : World}
    {view : DhcpView} {ip : Ip4} {deadline : Nat} (h : Handled env mac req w view)
    (hclock : Forward env w) (hw : w.lp.dhcpState.leases.Exclusive w.time)
    (hsoon : deadline ≤ w.time + dhcpLeaseTime)
    (hrelease : mac = a → req.msgType ≠ dhcpMsgRelease)
    (hextend : mac = a → req.msgType = dhcpMsgDiscover → ∀ l ∈ w.lp.dhcpState.leases.slots,
      l.used → l.mac = a → l.expires ≤ env.clock (w.readings + 1) + dhcpOfferTime)
    (hbound : BoundUntil w.dhcpView a ip deadline) : BoundUntil view a ip deadline := by
  have htime := h.time_le hclock
  rcases hbound with hpassed | ⟨l, hl, hused, hmac, hip, hexpires⟩
  · exact Or.inl (Nat.le_trans hpassed htime)
  have hstay : ∀ {w' : World}, Waits env w w' → BoundUntil w'.dhcpView a ip deadline := by
    intro w' hwaits
    refine Or.inr ⟨l, ?_, hused, hmac, hip, hexpires⟩
    rw [World.dhcpView, hwaits.lp]
    exact hl
  cases h with
  | silent waits => exact hstay waits
  | discovered nintendo discover discovered =>
    cases discovered with
    | noAddress picked => exact hstay ((Waits.tick .here).trans picked.waits)
    | noSlot picked full => exact hstay ((Waits.tick .here).trans picked.waits).tick
    | @offered ip' w' t f picked claimed reply =>
      by_cases hmine : mac = a
      swap
      · have hother : l.mac ≠ mac := fun heq => hmine (heq.symm.trans hmac)
        exact Or.inr
          ⟨l, LeaseTable.claim_keeps claimed hl hused hother, hused, hmac, hip, hexpires⟩
      have hlmac : l.mac = mac := hmac.trans hmine.symm
      -- without a live lease of its own the client may get another address
      have hlapse : ownLease w.lp mac (env.clock w.readings) = none →
          BoundUntil ⟨t, w.sent ++ [⟨.wifi, f⟩], w'.readings + 1, env.clock w'.readings⟩ a ip
            deadline := by
        intro hnone
        have hold := expired_of_ownLease_none hw hl hused (hlmac.symm ▸ hnone)
        have hforward := picked.waits.forward hclock.tick
        have hlater := Nat.le_trans (picked.waits.time_le hclock.tick) hforward.start
        exact Or.inl (Nat.le_trans hexpires (Nat.le_trans hold hlater))
      cases picked with
      | own own =>
        obtain rfl := ownLease_eq hw hl hused (hlmac.symm ▸ own)
        have hkeep := hextend hmine discover _ hl hused hmac
        refine Or.inr ⟨_, LeaseTable.claimed claimed, rfl, hmine, hip, ?_⟩
        exact Nat.le_trans hexpires hkeep
      | preferred none preferred | pool none passed waits isOpen address => exact hlapse none
  | @acked l' t f nintendo own claimed reply =>
    by_cases hmine : mac = a
    · have hlmac : l.mac = mac := hmac.trans hmine.symm
      obtain rfl := ownLease_eq hw hl hused (hlmac.symm ▸ own)
      refine Or.inr ⟨_, LeaseTable.claimed claimed, rfl, hmine, hip, ?_⟩
      exact Nat.le_trans hsoon (Nat.add_le_add_right htime _)
    · have hother : l.mac ≠ mac := fun heq => hmine (heq.symm.trans hmac)
      exact Or.inr
        ⟨l, LeaseTable.claim_keeps claimed hl hused hother, hused, hmac, hip, hexpires⟩
  | refused reply => exact Or.inr ⟨l, hl, hused, hmac, hip, hexpires⟩
  | released release =>
    have hother : l.mac ≠ mac := fun heq => hrelease (heq.symm.trans hmac) release
    exact Or.inr ⟨l, LeaseTable.release_keeps hl hother, hused, hmac, hip, hexpires⟩

theorem boundUntil_swept {env : Env} {w : World} {a : Mac} {ip : Ip4} {deadline : Nat}
    (hclock : Forward env w) (h : BoundUntil w.dhcpView a ip deadline) :
    BoundUntil (w.swept env).dhcpView a ip deadline := by
  rcases h with hpassed | ⟨l, hl, hused, hmac, hip, hexpires⟩
  · exact Or.inl (Nat.le_trans hpassed hclock.start)
  by_cases hlive : env.clock w.readings < l.expires
  · exact Or.inr ⟨l, (mem_dhcpSweepExpired hused).mpr ⟨hl, hlive⟩, hused, hmac, hip, hexpires⟩
  · exact Or.inl (Nat.le_trans hexpires (Nat.le_of_not_lt hlive))

theorem boundUntil_consumed {env : Env} {frame : Bytes} {w : World} {view : DhcpView} {a : Mac}
    {ip : Ip4} {deadline : Nat} (h : Consumed env frame w view) (hclock : Forward env w)
    (hw : w.lp.dhcpState.leases.Exclusive w.time) (hsoon : deadline ≤ w.time + dhcpLeaseTime)
    (hextend : NoShortening a env frame w) (hkept : ¬ Releases a env frame w)
    (hbound : BoundUntil w.dhcpView a ip deadline) : BoundUntil view a ip deadline := by
  cases h with
  | ignored => exact hbound
  | @handled req view serves parses handled =>
    refine boundUntil_handled handled hclock.swept ((hw.mono hclock.start).sweep _) ?_ ?_ ?_
      (boundUntil_swept hclock hbound)
    · exact Nat.le_trans hsoon (Nat.add_le_add_right hclock.start _)
    · intro hmac hrelease
      exact hkept ⟨serves, hmac, messageType_eq_some.mpr ⟨req, parses, hrelease⟩⟩
    · intro hmac hdiscover l hl hused hlmac
      have hold := ((mem_dhcpSweepExpired hused).mp hl).1
      exact hextend hmac (messageType_eq_some.mpr ⟨req, parses, hdiscover⟩) l hold hused hlmac

/-- Frames between which the client neither releases nor shortens its lease. -/
def Undisturbed (a : Mac) (env : Env) (frame : Bytes) (w : World) : Prop :=
  NoShortening a env frame w ∧ ¬ Releases a env frame w

theorem Serving.boundUntil {idle : World → World → Prop} {w w' : World} {a : Mac} {ip : Ip4}
    {deadline : Nat} (h : Serving idle (Undisturbed a) w w')
    (hw : w.lp.dhcpState.leases.Exclusive w.time) (hsoon : deadline ≤ w.time + dhcpLeaseTime)
    (hbound : BoundUntil w.dhcpView a ip deadline) :
    BoundUntil w'.dhcpView a ip deadline ∧ deadline ≤ w'.time + dhcpLeaseTime := by
  induction h with
  | start => exact ⟨hbound, hsoon⟩
  | @consume w' run env frame clock meets ih =>
    obtain ⟨hstill, hlater⟩ := ih
    have hstep := consumed env frame w'
    refine ⟨boundUntil_consumed hstep clock (run.exclusive hw) hlater meets.1 meets.2 hstill, ?_⟩
    exact Nat.le_trans hlater (Nat.add_le_add_right (hstep.time_le clock) _)
  | @between w' w'' run leases time idles ih =>
    obtain ⟨hstill, hlater⟩ := ih
    refine ⟨?_, Nat.le_trans hlater (Nat.add_le_add_right time _)⟩
    rcases hstill with hpassed | hlease
    · exact Or.inl (Nat.le_trans hpassed time)
    · refine Or.inr ?_
      rw [World.dhcpView, leases]
      exact hlease

/-- An ACK leaves a slot that lasts as long as it promises. -/
theorem Granted.bound {env : Env} {mac : Mac} {w : World} {view : DhcpView} {r : Reply}
    (h : Granted env mac w r view) (hack : r.msgType = dhcpMsgAck) :
    BoundUntil view r.chaddr r.yiaddr (view.time + dhcpLeaseTime) := by
  cases h with
  | offer picked claimed =>
    have hoffer : dhcpMsgOffer ≠ dhcpMsgAck := by decide
    exact absurd hack hoffer
  | ack own claimed =>
    exact Or.inr ⟨_, LeaseTable.claimed claimed, rfl, rfl, rfl, Nat.le_refl _⟩

/-- A client that is given an address another client is bound to has waited for the
deadline. -/
theorem Granted.passed {env : Env} {mac a : Mac} {w : World} {view : DhcpView} {r : Reply}
    {deadline : Nat} (h : Granted env mac w r view) (hclock : Forward env w)
    (hw : w.lp.dhcpState.leases.Exclusive w.time) (hother : r.chaddr ≠ a)
    (hbound : BoundUntil w.dhcpView a r.yiaddr deadline) : deadline ≤ view.time := by
  have hwait : ∀ {ip : Ip4} {w' : World}, Picked env mac w (some ip) w' → mac ≠ a →
      BoundUntil w.dhcpView a ip deadline → deadline ≤ env.clock w.readings := by
    intro ip w' hpicked hmac hbound
    rcases hbound with hpassed | ⟨l, hl, hused, hlmac, hip, hexpires⟩
    · exact Nat.le_trans hpassed hclock.start
    by_contra hearly
    have hlive : l.live (env.clock w.readings) = true :=
      (l.live_iff _).mpr ⟨hused, by omega⟩
    have hfree := hpicked.free (hw.mono hclock.start) l hl hlive
    exact hfree (fun heq => hmac (heq.symm.trans hlmac)) hip
  cases h with
  | offer picked claimed =>
    have hforward := picked.waits.forward hclock.tick
    exact Nat.le_trans (hwait picked hother hbound)
      (Nat.le_trans (picked.waits.time_le hclock.tick) hforward.start)
  | ack own claimed =>
    exact Nat.le_trans (hwait (Picked.own own) hother hbound) hclock.tick.start

/-- An acknowledged lease is honoured: after an ACK for `x` to `a`, and as long as `a`
neither releases its lease nor shortens it by a DISCOVER, nobody else is offered or
granted `x` before the lease time has passed. -/
theorem acknowledged_lease_honoured {w₀ w w' : World} {idle idle' : World → World → Prop}
    {may : Env → Bytes → World → Prop} {env env' : Env} {frame frame' : Bytes} {a b : Mac}
    {x : Ip4} {kind : UInt8} (hempty : w₀.lp.dhcpState.leases = LeaseTable.init)
    (before : Serving idle may w₀ w) (clock : Forward env w)
    (acked : Answered w (after (dhcpServerConsume env frame w)) ⟨dhcpMsgAck, x, a⟩)
    (since : Serving idle' (Undisturbed a) (after (dhcpServerConsume env frame w)) w')
    (clock' : Forward env' w') (hkind : kind = dhcpMsgOffer ∨ kind = dhcpMsgAck)
    (hother : b ≠ a)
    (granted : Answered w' (after (dhcpServerConsume env' frame' w')) ⟨kind, x, b⟩) :
    (after (dhcpServerConsume env frame w)).time + dhcpLeaseTime ≤
      (after (dhcpServerConsume env' frame' w')).time := by
  have hw : w.lp.dhcpState.leases.Exclusive w.time :=
    before.exclusive (hempty ▸ LeaseTable.exclusive_init _)
  have hack := consumed env frame w
  have hbound : BoundUntil (after (dhcpServerConsume env frame w)).dhcpView a x
      ((after (dhcpServerConsume env frame w)).time + dhcpLeaseTime) := by
    have hnak : dhcpMsgAck ≠ dhcpMsgNak := by decide
    exact (hack.granted acked hnak).bound rfl
  obtain ⟨hstill, -⟩ := since.boundUntil (hack.exclusive clock hw) (Nat.le_refl _) hbound
  have hlast := consumed env' frame' w'
  have hw' := since.exclusive (hack.exclusive clock hw)
  have hnak : kind ≠ dhcpMsgNak := by
    rcases hkind with rfl | rfl <;> decide
  exact (hlast.granted granted hnak).passed clock'.swept ((hw'.mono clock'.start).sweep _) hother
    (boundUntil_swept clock' hstill)

theorem acknowledged_lease_honoured_expired :
    Answered ackedWorld (after (dhcpServerConsume (serverEnv 4600) (discoverFrame secondConsole)
      ackedWorld)) ⟨dhcpMsgOffer, ip4 10 147 17 5, secondConsole⟩ ∧
      (after (dhcpServerConsume (serverEnv 1000) (requestFrame firstConsole (ip4 10 147 17 5))
        offeredWorld)).time + dhcpLeaseTime ≤ (after (dhcpServerConsume (serverEnv 4600)
        (discoverFrame secondConsole) ackedWorld)).time := by
  have hrun : (plainWorld.time ≤ 1000 ∧ offeredWorld.time ≤ 1000 ∧ ackedWorld.time ≤ 4600) ∧
      Answered offeredWorld ackedWorld ⟨dhcpMsgAck, ip4 10 147 17 5, firstConsole⟩ ∧
      Answered ackedWorld (after (dhcpServerConsume (serverEnv 4600) (discoverFrame secondConsole)
        ackedWorld)) ⟨dhcpMsgOffer, ip4 10 147 17 5, secondConsole⟩ := by
    decide +kernel
  obtain ⟨⟨hstart, htime, hlater⟩, hack, hoffer⟩ := hrun
  have hoffered : Serving (fun _ _ => True) (fun _ _ _ => True) plainWorld offeredWorld :=
    .consume .start _ _ (forward_serverEnv hstart) trivial
  have hsince : Serving (fun _ _ => True) (Undisturbed firstConsole)
      (after (dhcpServerConsume (serverEnv 1000) (requestFrame firstConsole (ip4 10 147 17 5))
        offeredWorld)) ackedWorld := .start
  refine ⟨hoffer, ?_⟩
  exact acknowledged_lease_honoured empty_plainWorld hoffered (forward_serverEnv htime) hack hsince
    (forward_serverEnv hlater) (Or.inl rfl) (by decide) hoffer

/-- The owner repeats its DISCOVER ten seconds after the ACK. -/
def repeatedWorld : World :=
  after (dhcpServerConsume (serverEnv 1010) (discoverFrame firstConsole) ackedWorld)

/-- The repeated DISCOVER turns the acknowledged hour into an offer of two minutes, and
after it a second console is offered the address. -/
theorem repeated_discover_loses_lease :
    plainWorld.lp.dhcpState.leases = LeaseTable.init ∧
      Serving (fun _ _ => True) (fun _ _ _ => True) plainWorld offeredWorld ∧
      Answered offeredWorld ackedWorld ⟨dhcpMsgAck, ip4 10 147 17 5, firstConsole⟩ ∧
      Serving (fun _ _ => True) (fun env frame w => ¬ Releases firstConsole env frame w)
        ackedWorld repeatedWorld ∧
      Forward (serverEnv 1131) repeatedWorld ∧ secondConsole ≠ firstConsole ∧
      Answered repeatedWorld (after (dhcpServerConsume (serverEnv 1131)
        (discoverFrame secondConsole) repeatedWorld))
        ⟨dhcpMsgOffer, ip4 10 147 17 5, secondConsole⟩ ∧
      (after (dhcpServerConsume (serverEnv 1131) (discoverFrame secondConsole)
        repeatedWorld)).time < ackedWorld.time + dhcpLeaseTime := by
  have hrun : (plainWorld.time ≤ 1000 ∧ ackedWorld.time ≤ 1010 ∧ repeatedWorld.time ≤ 1131) ∧
      messageType (discoverFrame firstConsole) = some dhcpMsgDiscover ∧
      Answered offeredWorld ackedWorld ⟨dhcpMsgAck, ip4 10 147 17 5, firstConsole⟩ ∧
      Answered repeatedWorld (after (dhcpServerConsume (serverEnv 1131)
        (discoverFrame secondConsole) repeatedWorld))
        ⟨dhcpMsgOffer, ip4 10 147 17 5, secondConsole⟩ ∧
      (after (dhcpServerConsume (serverEnv 1131) (discoverFrame secondConsole)
        repeatedWorld)).time < ackedWorld.time + dhcpLeaseTime := by
    decide +kernel
  obtain ⟨⟨hstart, hacked, hrepeated⟩, hdiscover, hack, hoffer, hearly⟩ := hrun
  refine ⟨empty_plainWorld, .consume .start _ _ (forward_serverEnv hstart) trivial, hack,
    .consume .start _ _ (forward_serverEnv hacked) ?_, forward_serverEnv hrepeated, by decide,
    hoffer, hearly⟩
  rintro ⟨-, -, hrelease⟩
  rw [hdiscover] at hrelease
  revert hrelease
  decide

end Grid0Relay
