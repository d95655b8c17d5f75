import Grid0Relay.Logic.Relay

/-!
# The UDP guard

What one `native_udp_guard_reserve` can do, and what any number of them keep: the
ports are distinct and not zero, `count` is their number, and there are at most 64.
-/

namespace Grid0Relay

open Lib Lib.Exec

/-- The list of the guard is in order. -/
structure NativeUdpGuard.Valid (g : NativeUdpGuard) : Prop where
  nodup : g.ports.Nodup
  nonzero : 0 ∉ g.ports
  count : g.count = g.ports.length
  bound : g.count ≤ maxUdpPorts

/-- The guard `native_udp_guard_create` allocates. -/
def NativeUdpGuard.empty : NativeUdpGuard := ⟨[], 0⟩

theorem NativeUdpGuard.empty_valid : NativeUdpGuard.empty.Valid :=
  ⟨List.nodup_nil, List.not_mem_nil, rfl, Nat.zero_le _⟩

/-- What one `native_udp_guard_reserve` can do. -/
inductive Reserves (port : Nat) (w : World) : Int → World → Prop
  /-- An error: only questions were asked. -/
  | refused (ret : Int) (asked : Nat) (error : ret ≠ 0) : Reserves port w ret { w with asked }
  /-- The port is in the list. -/
  | known (g : NativeUdpGuard) (guard : w.lp.udpGuard = some g) (mem : port ∈ g.ports)
      (nonzero : port ≠ 0) : Reserves port w 0 w
  /-- A socket was opened. -/
  | opened (g : NativeUdpGuard) (asked : Nat) (guard : w.lp.udpGuard = some g)
      (nonzero : port ≠ 0) (fresh : port ∉ g.ports) (room : g.count < maxUdpPorts) :
      Reserves port w 0
        { w with asked, lp := { w.lp with udpGuard := some ⟨port :: g.ports, g.count + 1⟩ } }

/-- What it returns: the answers are numbered from `asked` on. -/
def reserveResult (env : Env) (port : Nat) (guard : Option NativeUdpGuard) (asked : Nat) : Int :=
  match guard with
  | none => uvEinval
  | some g =>
    if port = 0 then uvEinval
    else if port ∈ g.ports then 0
    else if g.count ≥ maxUdpPorts then uvEnospc
    else if !env.calloc asked then uvEnomem
    else if env.uvUdpInit (asked + 1) ≠ 0 then env.uvUdpInit (asked + 1)
    else if env.uvUdpBind (asked + 2) ≠ 0 then env.uvUdpBind (asked + 2)
    else env.uvUdpRecvStart (asked + 3)

theorem nativeUdpGuardReserve_reserves (env : Env) (port : Nat) (w : World) :
    ∃ w', nativeUdpGuardReserve env port w =
        .ok (reserveResult env port w.lp.udpGuard w.asked) w' ∧
      Reserves port w (reserveResult env port w.lp.udpGuard w.asked) w' := by
  simp only [nativeUdpGuardReserve, bind_apply, getLp_apply, reserveResult]
  cases hguard : w.lp.udpGuard with
  | none => exact ⟨_, rfl, .refused uvEinval w.asked (by decide)⟩
  | some g =>
    simp only [ite_run, bind_apply, ask_apply, pure_apply]
    by_cases hzero : port = 0
    · simp only [if_pos hzero]
      exact ⟨_, rfl, .refused uvEinval w.asked (by decide)⟩
    simp only [if_neg hzero]
    by_cases hknown : port ∈ g.ports
    · simp only [if_pos hknown]
      exact ⟨_, rfl, .known g hguard hknown hzero⟩
    simp only [if_neg hknown]
    by_cases hfull : g.count ≥ maxUdpPorts
    · simp only [if_pos hfull]
      exact ⟨_, rfl, .refused uvEnospc w.asked (by decide)⟩
    simp only [if_neg hfull]
    -- from here on each question can end the call
    by_cases halloc : env.calloc w.asked = true
    swap
    · rw [Bool.not_eq_true] at halloc
      simp only [halloc, Bool.not_false, if_true]
      exact ⟨_, rfl, .refused uvEnomem _ (by decide)⟩
    simp only [halloc, Bool.not_true, Bool.false_eq_true, if_false]
    by_cases hinit : env.uvUdpInit (w.asked + 1) = 0
    swap
    · simp only [ne_eq, hinit, not_false_eq_true, if_true]
      exact ⟨_, rfl, .refused _ _ hinit⟩
    simp only [hinit, ne_eq, not_true_eq_false, if_false]
    by_cases hbind : env.uvUdpBind (w.asked + 1 + 1) = 0
    swap
    · simp only [hbind, not_false_eq_true, if_true, if_false]
      exact ⟨_, rfl, .refused _ _ hbind⟩
    simp only [hbind, not_true_eq_false, if_true, if_false]
    by_cases hrecv : env.uvUdpRecvStart (w.asked + 1 + 1 + 1) = 0
    · simp only [hrecv, not_true_eq_false, if_false]
      exact ⟨_, rfl, .opened g _ hguard hzero hknown (by omega)⟩
    · simp only [hrecv, not_false_eq_true, if_true]
      exact ⟨_, rfl, .refused _ _ hrecv⟩

/-- A reservation keeps the guard in order, keeps the ports it had, and on an error
keeps the guard itself. -/
theorem Reserves.guard {port : Nat} {w w' : World} {ret : Int} {g : NativeUdpGuard}
    (h : Reserves port w ret w') (hguard : w.lp.udpGuard = some g) (hvalid : g.Valid) :
    ∃ g', w'.lp.udpGuard = some g' ∧ g'.Valid ∧ g.ports ⊆ g'.ports ∧ (ret ≠ 0 → g' = g) ∧
      (ret = 0 → port ∈ g'.ports) ∧ (port ∈ g.ports → ret = 0 → w' = w) := by
  cases h with
  | refused ret asked error =>
    exact ⟨g, hguard, hvalid, List.Subset.refl _, fun _ => rfl, fun h => absurd h error,
      fun _ h => absurd h error⟩
  | known g₁ hg₁ mem nonzero =>
    obtain rfl : g₁ = g := Option.some.inj (hg₁.symm.trans hguard)
    exact ⟨g₁, hguard, hvalid, List.Subset.refl _, fun h => absurd rfl h, fun _ => mem,
      fun _ _ => rfl⟩
  | opened g₁ asked hg₁ nonzero fresh room =>
    obtain rfl : g₁ = g := Option.some.inj (hg₁.symm.trans hguard)
    refine ⟨⟨port :: g₁.ports, g₁.count + 1⟩, rfl, ?_, List.subset_cons_self _ _,
      fun h => absurd rfl h, fun _ => List.mem_cons_self, fun h => absurd h fresh⟩
    exact ⟨List.nodup_cons.mpr ⟨fresh, hvalid.nodup⟩, by
      simpa [Ne.symm nonzero] using hvalid.nonzero, by
      simp [hvalid.count], room⟩

/-- After a success the port is in the list. -/
theorem Reserves.mem {port : Nat} {w w' : World} (h : Reserves port w 0 w') :
    ∃ g, w'.lp.udpGuard = some g ∧ port ∈ g.ports := by
  cases h with
  | refused _ asked error => exact absurd rfl error
  | known g hguard mem nonzero => exact ⟨g, hguard, mem⟩
  | opened g asked hguard nonzero fresh room => exact ⟨_, rfl, List.mem_cons_self⟩

/-- A port in the list is reserved again without a question. -/
theorem nativeUdpGuardReserve_known (env : Env) {port : Nat} {w : World} {g : NativeUdpGuard}
    (hguard : w.lp.udpGuard = some g) (hvalid : g.Valid) (hmem : port ∈ g.ports) :
    nativeUdpGuardReserve env port w = .ok 0 w := by
  have hzero : port ≠ 0 := by
    rintro rfl
    exact hvalid.nonzero hmem
  simp only [nativeUdpGuardReserve, bind_apply, getLp_apply, hguard, ite_run, pure_apply]
  rw [if_neg hzero, if_pos hmem]

/-- A sequence of reservations, whatever each returns. -/
def reserveAll (env : Env) : List Nat → RelayM Unit
  | [] => pure ()
  | port :: rest => do
    let _ ← nativeUdpGuardReserve env port
    reserveAll env rest

/-- Any number of reservations keep the guard in order and the ports it had. -/
theorem reserveAll_guard (env : Env) (ports : List Nat) {w : World} {g : NativeUdpGuard}
    (hguard : w.lp.udpGuard = some g) (hvalid : g.Valid) :
    ∃ w' g', reserveAll env ports w = .ok () w' ∧ w'.lp.udpGuard = some g' ∧ g'.Valid ∧
      g.ports ⊆ g'.ports := by
  induction ports generalizing w g with
  | nil => exact ⟨w, g, rfl, hguard, hvalid, List.Subset.refl _⟩
  | cons port rest ih =>
    obtain ⟨w₁, hreserve, hstep⟩ := nativeUdpGuardReserve_reserves env port w
    obtain ⟨g₁, hguard₁, hvalid₁, hsub, -⟩ := hstep.guard hguard hvalid
    obtain ⟨w', g', hrest, hguard', hvalid', hsub'⟩ := ih hguard₁ hvalid₁
    exact ⟨w', g', (bind_ok hreserve).trans hrest, hguard', hvalid', List.Subset.trans hsub hsub'⟩

end Grid0Relay
