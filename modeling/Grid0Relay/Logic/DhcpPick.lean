import Grid0Relay.Logic.Leases

/-!
# The address the DHCP server picks

`dhcp_pick_ip` reads the clock in up to twenty-six places. `Waits` is a stretch of such
readings, `PoolOpen` follows the loop over the pool, and `Picked` says which address
is chosen and why.
-/

namespace Grid0Relay

open Lib Lib.Exec Lib.Slots

/-! ## The clock -/

/-- Nothing but the clock is read. -/
inductive Waits (env : Env) (w : World) : World → Prop
  | here : Waits env w w
  | tick {w' : World} (waits : Waits env w w') : Waits env w (w'.tick env)

namespace Waits

variable {env : Env} {w w' w'' : World}

theorem trans (h : Waits env w w') (h' : Waits env w' w'') : Waits env w w'' := by
  induction h' with
  | here => exact h
  | tick _ ih => exact ih.tick

theorem lp (h : Waits env w w') : w'.lp = w.lp := by
  induction h with
  | here => rfl
  | tick _ ih => exact ih

theorem sent (h : Waits env w w') : w'.sent = w.sent := by
  induction h with
  | here => rfl
  | tick _ ih => exact ih

theorem forward (h : Waits env w w') (hclock : Forward env w) : Forward env w' := by
  induction h with
  | here => exact hclock
  | tick _ ih => exact ih.tick

theorem time_le (h : Waits env w w') (hclock : Forward env w) : w.time ≤ w'.time := by
  induction h with
  | here => exact Nat.le_refl _
  | tick hw ih => exact Nat.le_trans ih (hw.forward hclock).start

end Waits

/-! ## Addresses as numbers -/

theorem toNat_ipv4ToU32 (ip : Ip4) : (ipv4ToU32 ip).toNat =
    (octet ip 0).toNat * 16777216 + (octet ip 1).toNat * 65536 + (octet ip 2).toNat * 256 +
      (octet ip 3).toNat := by
  have h0 := (octet ip 0).toNat_lt
  have h1 := (octet ip 1).toNat_lt
  have h2 := (octet ip 2).toNat_lt
  have h3 := (octet ip 3).toNat_lt
  -- the four bytes do not overlap, so `|` adds them
  have hor : ∀ a b k : Nat, b < 2 ^ k → (a * 2 ^ k) ||| b = a * 2 ^ k + b := by
    intro a b k hb
    rw [← Nat.shiftLeft_eq, Nat.shiftLeft_add_eq_or_of_lt hb]
  have hfirst : (octet ip 0).toNat * 2 ^ (UInt32.toNat 24 % 32) % 2 ^ 32 =
      (octet ip 0).toNat * 2 ^ 24 := by
    rw [show UInt32.toNat 24 % 32 = 24 by decide]
    omega
  have hsecond : (octet ip 1).toNat * 2 ^ (UInt32.toNat 16 % 32) % 2 ^ 32 =
      (octet ip 1).toNat * 2 ^ 16 := by
    rw [show UInt32.toNat 16 % 32 = 16 by decide]
    omega
  have hthird : (octet ip 2).toNat * 2 ^ (UInt32.toNat 8 % 32) % 2 ^ 32 =
      (octet ip 2).toNat * 2 ^ 8 := by
    rw [show UInt32.toNat 8 % 32 = 8 by decide]
    omega
  simp only [ipv4ToU32, UInt32.toNat_or, UInt32.toNat_shiftLeft, UInt8.toNat_toUInt32,
    Nat.shiftLeft_eq]
  rw [hfirst, hsecond, hthird, hor (octet ip 0).toNat _ 24 (by omega),
    show (octet ip 0).toNat * 2 ^ 24 + (octet ip 1).toNat * 2 ^ 16 =
      ((octet ip 0).toNat * 256 + (octet ip 1).toNat) * 2 ^ 16 by
      omega, hor _ _ 16 (by omega),
    show ((octet ip 0).toNat * 256 + (octet ip 1).toNat) * 2 ^ 16 + (octet ip 2).toNat * 2 ^ 8 =
      (((octet ip 0).toNat * 256 + (octet ip 1).toNat) * 256 + (octet ip 2).toNat) * 2 ^ 8 by omega,
    hor _ _ 8 (by omega)]
  omega

theorem toNat_u32ToIpv4 (v : UInt32) (i : Nat) (h : i < 4) :
    (octet (u32ToIpv4 v) i).toNat = v.toNat / 256 ^ (3 - i) % 256 := by
  rw [octet_eq _ h]
  have hcases : i = 0 ∨ i = 1 ∨ i = 2 ∨ i = 3 := by omega
  rcases hcases with rfl | rfl | rfl | rfl
  · simp [u32ToIpv4, Nat.shiftRight_eq_div_pow]
  · simp [u32ToIpv4, Nat.shiftRight_eq_div_pow]
  · simp [u32ToIpv4, Nat.shiftRight_eq_div_pow]
  · simp [u32ToIpv4]

theorem ipv4ToU32_u32ToIpv4 (v : UInt32) : ipv4ToU32 (u32ToIpv4 v) = v := by
  apply UInt32.toNat_inj.mp
  have hv := v.toNat_lt
  rw [toNat_ipv4ToU32, toNat_u32ToIpv4 v 0 (by decide), toNat_u32ToIpv4 v 1 (by decide),
    toNat_u32ToIpv4 v 2 (by decide), toNat_u32ToIpv4 v 3 (by decide)]
  omega

theorem u32ToIpv4_ipv4ToU32 (ip : Ip4) : u32ToIpv4 (ipv4ToU32 ip) = ip := by
  have h0 := (octet ip 0).toNat_lt
  have h1 := (octet ip 1).toNat_lt
  have h2 := (octet ip 2).toNat_lt
  have h3 := (octet ip 3).toNat_lt
  apply Vector.ext
  intro i hi
  apply UInt8.toNat_inj.mp
  rw [← octet_eq _ hi, ← octet_eq _ hi, toNat_u32ToIpv4 _ i hi, toNat_ipv4ToU32]
  have hcases : i = 0 ∨ i = 1 ∨ i = 2 ∨ i = 3 := by omega
  rcases hcases with rfl | rfl | rfl | rfl <;> omega

theorem ipv4ToU32_inj {a b : Ip4} (h : ipv4ToU32 a = ipv4ToU32 b) : a = b := by
  rw [← u32ToIpv4_ipv4ToU32 a, h, u32ToIpv4_ipv4ToU32]

/-- The broadcast address of a network with an address other than 0.0.0.0 is not
0.0.0.0. -/
theorem ipv4ToU32_fillIp_pos {ip : Ip4} (mask : Ip4) (h : ip ≠ noneIp) :
    0 < (ipv4ToU32 (fillIp ip mask)).toNat := by
  have hbyte : ∀ i (hi : i < 4), (octet ip i).toNat ≤ (octet (fillIp ip mask) i).toNat := by
    intro i hi
    have hor : (fillIp ip mask)[i] = ip[i] ||| ~~~mask[i] := by
      have hcases : i = 0 ∨ i = 1 ∨ i = 2 ∨ i = 3 := by omega
      rcases hcases with rfl | rfl | rfl | rfl <;> rfl
    rw [octet_eq _ hi, octet_eq _ hi, hor, UInt8.toNat_or]
    exact Nat.left_le_or
  have hle : (ipv4ToU32 ip).toNat ≤ (ipv4ToU32 (fillIp ip mask)).toNat := by
    have h0 := hbyte 0 (by decide)
    have h1 := hbyte 1 (by decide)
    have h2 := hbyte 2 (by decide)
    have h3 := hbyte 3 (by decide)
    rw [toNat_ipv4ToU32, toNat_ipv4ToU32]
    omega
  refine Nat.lt_of_lt_of_le (Nat.pos_of_ne_zero fun hzero => h ?_) hle
  refine ipv4ToU32_inj (UInt32.toNat_inj.mp ?_)
  rw [hzero]
  rfl

/-! ## Choosing an address -/

section Pool

variable (env : Env) (lp : LanPlay) (now : Nat) (net bcast gw own : UInt32)

/-- The loop does not even look the candidate up. -/
def Reserved (cand : UInt32) : Prop :=
  cand = gw ∨ cand = own ∨ (lp.switchSeen ∧ u32ToIpv4 cand = lp.switchIp)
deriving Decidable

/-- Neither the local cache, at this reading, nor a lease knows the address. -/
def Vacant (reading : Nat) (ip : Ip4) : Prop :=
  lp.packetCtx.arpList.lookup ip (env.clock reading) = none ∧
    ∀ l ∈ lp.dhcpState.leases.slots, l.live now → l.ip ≠ ip

/-- Some candidate of the pool is vacant when its turn comes; `reading` is the next
reading of the clock. -/
def PoolOpen : Nat → UInt32 → Nat → Prop
  | 0, _, _ => False
  | fuel + 1, cand, reading =>
    (cand > net ∧ bcast - cand ≤ 24) ∧
      if Reserved lp gw own cand then PoolOpen fuel (cand - 1) reading
      else Vacant env lp now reading (u32ToIpv4 cand) ∨ PoolOpen fuel (cand - 1) (reading + 1)

/-- What is known of an address the loop returns. -/
structure PoolAddress (ip : Ip4) : Prop where
  above : net < ipv4ToU32 ip
  below : 0 < bcast.toNat → (ipv4ToU32 ip).toNat < bcast.toNat
  near : bcast - ipv4ToU32 ip ≤ 24
  notGateway : ipv4ToU32 ip ≠ gw
  notSelf : ipv4ToU32 ip ≠ own
  notConsole : lp.switchSeen → ip ≠ lp.switchIp
  unleased : ∀ l ∈ lp.dhcpState.leases.slots, l.live now → l.ip ≠ ip

theorem vacant_iff (reading : Nat) (ip : Ip4) :
    ¬ Vacant env lp now reading ip ↔
      ((lp.packetCtx.arpList.lookup ip (env.clock reading)).isSome = true ∨
        (lp.dhcpState.leases.slots.any fun l => l.live now && l.ip == ip) = true) := by
  simp only [Vacant, not_and_or, List.any_eq_true, Bool.and_eq_true, beq_iff_eq,
    Option.isSome_iff_ne_none]
  refine or_congr Iff.rfl ?_
  push Not
  rfl

/-- One round of the loop. -/
theorem dhcpPickPool_round {cand : UInt32} (h : cand > net ∧ bcast - cand ≤ 24) (fuel : Nat)
    (w : World) : dhcpPickPool env now net bcast gw own (fuel + 1) cand w =
      if cand = gw ∨ cand = own ∨ (w.lp.switchSeen ∧ u32ToIpv4 cand = w.lp.switchIp) then
        dhcpPickPool env now net bcast gw own fuel (cand - 1) w
      else if (w.lp.packetCtx.arpList.lookup (u32ToIpv4 cand) (env.clock w.readings)).isSome ∨
          w.lp.dhcpState.leases.slots.any fun l => l.live now && l.ip == u32ToIpv4 cand then
        dhcpPickPool env now net bcast gw own fuel (cand - 1) (w.tick env)
      else .ok (some (u32ToIpv4 cand)) (w.tick env) := by
  rw [dhcpPickPool, if_pos h, bind_ok (getLp_apply w), ite_run, bind_ok (arpHasIp_eq env _ _ w),
    ite_run]
  rfl

theorem dhcpPickPool_spec (fuel : Nat) (cand : UInt32) (w : World)
    (hcand : 0 < bcast.toNat → cand.toNat < bcast.toNat) :
    ∃ r w', dhcpPickPool env now net bcast gw own fuel cand w = .ok r w' ∧ Waits env w w' ∧
      (r.isSome ↔ PoolOpen env w.lp now net bcast gw own fuel cand w.readings) ∧
      ∀ ip, r = some ip → PoolAddress w.lp now net bcast gw own ip := by
  induction fuel generalizing cand w with
  | zero => exact ⟨none, w, rfl, .here, by simp [PoolOpen], by simp⟩
  | succ fuel ih =>
    rw [PoolOpen]
    by_cases hrange : cand > net ∧ bcast - cand ≤ 24
    swap
    · refine ⟨none, w, ?_, .here, by simp [hrange], by simp⟩
      rw [dhcpPickPool, if_neg hrange]
      rfl
    -- `cand` is above `net`, so the next candidate does not wrap around
    have hnext : 0 < bcast.toNat → (cand - 1).toNat < bcast.toNat := by
      intro hpos
      have hlt := hcand hpos
      have habove : net.toNat < cand.toNat := UInt32.lt_iff_toNat_lt.mp hrange.1
      have hone : (1 : UInt32) ≤ cand := by
        rw [UInt32.le_iff_toNat_le]
        exact Nat.lt_of_le_of_lt (Nat.zero_le _) habove
      rw [UInt32.toNat_sub_of_le _ _ hone]
      omega
    rw [dhcpPickPool_round _ _ _ _ _ _ hrange]
    by_cases hreserved : Reserved w.lp gw own cand
    · obtain ⟨r, w', heq, hwaits, hopen, haddr⟩ := ih (cand - 1) w hnext
      refine ⟨r, w', (if_pos hreserved).trans heq, hwaits, ?_, haddr⟩
      rw [if_pos hreserved, hopen]
      exact (and_iff_right hrange).symm
    rw [if_neg hreserved]
    by_cases hvacant : Vacant env w.lp now w.readings (u32ToIpv4 cand)
    · have hfree := fun h => (vacant_iff env w.lp now w.readings (u32ToIpv4 cand)).mpr h hvacant
      refine ⟨some (u32ToIpv4 cand), w.tick env, (if_neg hreserved).trans (if_neg hfree),
        .tick .here, by simp [hrange, hvacant], ?_⟩
      rintro ip ⟨⟩
      have hself := ipv4ToU32_u32ToIpv4 cand
      refine ⟨by rw [hself]; exact hrange.1, by rw [hself]; exact hcand,
        by rw [hself]; exact hrange.2, ?_, ?_, ?_, hvacant.2⟩
      · rw [hself]
        exact fun h => hreserved (Or.inl h)
      · rw [hself]
        exact fun h => hreserved (Or.inr (Or.inl h))
      · exact fun hseen h => hreserved (Or.inr (Or.inr ⟨hseen, h⟩))
    · have htaken := (vacant_iff env w.lp now w.readings (u32ToIpv4 cand)).mp hvacant
      obtain ⟨r, w', heq, hwaits, hopen, haddr⟩ := ih (cand - 1) (w.tick env) hnext
      refine ⟨r, w', (if_neg hreserved).trans ((if_pos htaken).trans heq),
        (Waits.tick .here).trans hwaits, ?_, haddr⟩
      rw [hopen]
      simp only [hrange, hvacant, false_or, true_and, and_self]
      rfl

end Pool

/-- The client's own unexpired lease. -/
def ownLease (lp : LanPlay) (mac : Mac) (now : Nat) : Option DhcpLease :=
  (dhcpFindMac lp.dhcpState.leases mac).filter fun own => decide (own.expires > now)

theorem ownLease_some {lp : LanPlay} {mac : Mac} {now : Nat} {l : DhcpLease}
    (h : ownLease lp mac now = some l) :
    l ∈ lp.dhcpState.leases.slots ∧ l.used ∧ l.mac = mac ∧ now < l.expires := by
  obtain ⟨hfind, hlive⟩ := Option.filter_eq_some_iff.mp h
  obtain ⟨hused, hmac⟩ := (l.ownedBy_iff mac).mp (List.find?_some hfind)
  exact ⟨List.mem_of_find?_eq_some hfind, hused, hmac, of_decide_eq_true hlive⟩

/-- Another client is bound to the relay's own address. -/
def selfTaken (lp : LanPlay) (mac : Mac) (now : Nat) : Bool :=
  lp.dhcpState.leases.slots.any fun l => l.live now && l.ip == lp.zerotierIp && l.mac != mac

theorem selfTaken_eq_false {lp : LanPlay} {mac : Mac} {now : Nat} :
    selfTaken lp mac now = false ↔ lp.dhcpState.leases.FreeFor now mac lp.zerotierIp := by
  simp only [selfTaken, LeaseTable.FreeFor, List.any_eq_false, Bool.and_eq_true, beq_iff_eq,
    bne_iff_ne, not_and, and_imp]
  refine forall_congr' fun l => forall_congr' fun _ => forall_congr' fun _ => ?_
  exact ⟨fun h hmac hip => h hip hmac, fun h hip hmac => h hmac hip⟩

/-- The relay's own address is handed out: nobody else leases it, nothing answers for
it, and a console, if one was seen, has it. -/
def Preferred (env : Env) (lp : LanPlay) (mac : Mac) (now reading : Nat) : Prop :=
  selfTaken lp mac now = false ∧
    lp.packetCtx.arpList.lookup lp.zerotierIp (env.clock reading) = none ∧
    (lp.switchSeen → lp.zerotierIp = lp.switchIp)

/-- The pool has an address for the client. The look-up of the relay's own address is
skipped when a lease already binds it, and then takes no reading. -/
def PoolFor (env : Env) (lp : LanPlay) (mac : Mac) (now reading : Nat) : Prop :=
  PoolOpen env lp now (ipv4ToU32 lp.zerotierIp &&& ipv4ToU32 lp.zerotierNetmask)
    (ipv4ToU32 lp.zerotierBroadcastIp) (ipv4ToU32 lp.packetCtx.ip) (ipv4ToU32 lp.zerotierIp) 25
    (ipv4ToU32 lp.zerotierBroadcastIp - 1) (if selfTaken lp mac now then reading else reading + 1)

/-- The address `dhcp_pick_ip` chooses, and why. -/
inductive Picked (env : Env) (mac : Mac) (w : World) : Option Ip4 → World → Prop
  | own {l : DhcpLease} (own : ownLease w.lp mac (env.clock w.readings) = some l) :
      Picked env mac w (some l.ip) (w.tick env)
  | preferred (none : ownLease w.lp mac (env.clock w.readings) = none)
      (preferred : Preferred env w.lp mac (env.clock w.readings) (w.readings + 1)) :
      Picked env mac w (some w.lp.zerotierIp) ((w.tick env).tick env)
  | pool {r : Option Ip4} {w' : World}
      (none : ownLease w.lp mac (env.clock w.readings) = none)
      (passed : ¬ Preferred env w.lp mac (env.clock w.readings) (w.readings + 1))
      (waits : Waits env (w.tick env) w')
      (isOpen : r.isSome ↔ PoolFor env w.lp mac (env.clock w.readings) (w.readings + 1))
      (address : ∀ ip, r = some ip → PoolAddress w.lp (env.clock w.readings)
        (ipv4ToU32 w.lp.zerotierIp &&& ipv4ToU32 w.lp.zerotierNetmask)
        (ipv4ToU32 w.lp.zerotierBroadcastIp) (ipv4ToU32 w.lp.packetCtx.ip)
        (ipv4ToU32 w.lp.zerotierIp) ip) :
      Picked env mac w r w'

/-- The pool loop as `dhcp_pick_ip` starts it. -/
def pickPool (env : Env) (lp : LanPlay) (now : Nat) : RelayM (Option Ip4) :=
  dhcpPickPool env now (ipv4ToU32 lp.zerotierIp &&& ipv4ToU32 lp.zerotierNetmask)
    (ipv4ToU32 lp.zerotierBroadcastIp) (ipv4ToU32 lp.packetCtx.ip) (ipv4ToU32 lp.zerotierIp) 25
    (ipv4ToU32 lp.zerotierBroadcastIp - 1)

/-- `dhcp_pick_ip` for a client without an unexpired lease. -/
theorem dhcpPickIp_none {env : Env} {mac : Mac} {w : World}
    (h : ownLease w.lp mac (env.clock w.readings) = none) :
    dhcpPickIp env mac w =
      if selfTaken w.lp mac (env.clock w.readings) then
        pickPool env w.lp (env.clock w.readings) (w.tick env)
      else if ¬ (w.lp.packetCtx.arpList.lookup w.lp.zerotierIp
            (env.clock (w.readings + 1))).isSome ∧
          (¬ w.lp.switchSeen ∨ w.lp.zerotierIp = w.lp.switchIp) then
        .ok (some w.lp.zerotierIp) ((w.tick env).tick env)
      else pickPool env w.lp (env.clock w.readings) ((w.tick env).tick env) := by
  have hlp : (w.tick env).lp = w.lp := rfl
  have hself := u32ToIpv4_ipv4ToU32 w.lp.zerotierIp
  rw [ownLease] at h
  rw [dhcpPickIp, bind_ok (timeNull_eq env w), bind_ok (getLp_apply _), hlp, h]
  simp only [hself]
  change ((if selfTaken w.lp mac (env.clock w.readings) then pure true else _ : RelayM Bool) >>= _ :
    RelayM (Option Ip4)) _ = _
  by_cases htaken : selfTaken w.lp mac (env.clock w.readings)
  · rw [if_pos htaken, if_pos htaken]
    rfl
  · rw [if_neg htaken, if_neg htaken, bind_ok (arpHasIp_eq env _ _ _), ite_run]
    simp only [Bool.not_eq_true, Bool.not_eq_eq_eq_not, Bool.not_true, pure_apply]
    rfl

theorem dhcpPickIp_picked (env : Env) (mac : Mac) (w : World) :
    ∃ r w', dhcpPickIp env mac w = .ok r w' ∧ Picked env mac w r w' := by
  cases hown : ownLease w.lp mac (env.clock w.readings) with
  | some l =>
    refine ⟨some l.ip, w.tick env, ?_, .own hown⟩
    have hlp : (w.tick env).lp = w.lp := rfl
    rw [ownLease] at hown
    rw [dhcpPickIp, bind_ok (timeNull_eq env w), bind_ok (getLp_apply _), hlp, hown]
    rfl
  | none =>
    have hstart : 0 < (ipv4ToU32 w.lp.zerotierBroadcastIp).toNat →
        (ipv4ToU32 w.lp.zerotierBroadcastIp - 1).toNat <
          (ipv4ToU32 w.lp.zerotierBroadcastIp).toNat := by
      intro hpos
      have hone : (1 : UInt32) ≤ ipv4ToU32 w.lp.zerotierBroadcastIp := by
        rw [UInt32.le_iff_toNat_le]
        exact hpos
      rw [UInt32.toNat_sub_of_le _ _ hone]
      exact Nat.sub_lt hpos Nat.one_pos
    rw [dhcpPickIp_none hown]
    by_cases htaken : selfTaken w.lp mac (env.clock w.readings)
    · obtain ⟨r, w', heq, hwaits, hopen, haddr⟩ :=
        dhcpPickPool_spec env _ _ _ _ _ 25 _ (w.tick env) hstart
      refine ⟨r, w', (if_pos htaken).trans heq, .pool hown ?_ hwaits ?_ haddr⟩
      · exact fun hpref => absurd htaken (by simp [hpref.1])
      · rw [hopen, PoolFor, if_pos htaken]
        rfl
    rw [if_neg htaken]
    by_cases hpref : Preferred env w.lp mac (env.clock w.readings) (w.readings + 1)
    · refine ⟨_, _, if_pos ⟨by simp [hpref.2.1], ?_⟩, .preferred hown hpref⟩
      exact Decidable.not_or_of_imp hpref.2.2
    · obtain ⟨r, w', heq, hwaits, hopen, haddr⟩ :=
        dhcpPickPool_spec env _ _ _ _ _ 25 _ ((w.tick env).tick env) hstart
      refine ⟨r, w', (if_neg ?_).trans heq,
        .pool hown hpref ((Waits.tick .here).trans hwaits) ?_ haddr⟩
      · rintro ⟨hmiss, hseen⟩
        refine hpref ⟨by simpa using htaken, by simpa using hmiss, fun h => ?_⟩
        exact hseen.resolve_left (not_not.mpr h)
      · rw [hopen, PoolFor, if_neg htaken]
        rfl

namespace Picked

variable {env : Env} {mac : Mac} {w w' : World} {r : Option Ip4} {ip : Ip4}

theorem waits (h : Picked env mac w r w') : Waits env (w.tick env) w' := by
  cases h with
  | own own => exact .here
  | preferred none preferred => exact .tick .here
  | pool none passed waits isOpen address => exact waits

/-- No other client is bound to the address. -/
theorem free (h : Picked env mac w (some ip) w')
    (exclusive : w.lp.dhcpState.leases.Exclusive (env.clock w.readings)) :
    w.lp.dhcpState.leases.FreeFor (env.clock w.readings) mac ip := by
  cases h with
  | @own l own =>
    obtain ⟨hl, hused, hmac, hexpires⟩ := ownLease_some own
    intro l' hl' hlive hother hip
    have hsame := exclusive.unique_ip hl' hl hlive ((l.live_iff _).mpr ⟨hused, hexpires⟩) hip
    exact hother (hsame ▸ hmac)
  | preferred none preferred => exact selfTaken_eq_false.mp preferred.1
  | pool none passed waits isOpen address =>
    exact fun l hl hlive _ => (address ip rfl).unleased l hl hlive

/-- The address is one the server may lease. -/
theorem leaseAddress (h : Picked env mac w (some ip) w')
    (permitted : w.lp.dhcpState.leases.Permitted w.lp.config)
    (hpos : 0 < (ipv4ToU32 w.lp.zerotierBroadcastIp).toNat) : LeaseAddress w.lp.config ip := by
  cases h with
  | own own =>
    obtain ⟨hl, hused, -, -⟩ := ownLease_some own
    exact (permitted _ hl hused).2
  | preferred none preferred => exact Or.inl rfl
  | pool none passed waits isOpen address =>
    have haddr := address ip rfl
    have hbelow := haddr.below hpos
    have hle : ipv4ToU32 ip ≤ ipv4ToU32 w.lp.zerotierBroadcastIp :=
      UInt32.le_iff_toNat_le.mpr (Nat.le_of_lt hbelow)
    have hnear := UInt32.le_iff_toNat_le.mp haddr.near
    rw [UInt32.toNat_sub_of_le _ _ hle] at hnear
    refine Or.inr ⟨haddr.above, UInt32.lt_iff_toNat_lt.mpr hbelow, hnear, ?_, ?_⟩
    · exact fun h => haddr.notGateway (congrArg ipv4ToU32 h)
    · exact fun h => haddr.notSelf (congrArg ipv4ToU32 h)

end Picked

end Grid0Relay
