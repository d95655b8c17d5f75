import Mathlib.Data.List.GetD
import Mathlib.Data.List.Induction
import Grid0Relay.Theorems.Restart

/-!
# The search for a console

The discovery timer asks one address a tick. What it does at a tick depends on the number of
ticks before it only: the Wi-Fi network if there is one, the network of `--subnet`, a pause,
and over again, whatever callbacks come in between. Once a console has been seen the search is
over for good.
-/

namespace Grid0Relay

open Lib Lib.Exec

/-! ## The schedule -/

/-- Whom a tick asks for, and in whose name. -/
structure Query where
  target : Ip4
  sender : Ip4

/-- The hosts 2 to 254 next to an address, without one of them. -/
def hostQueries (base sender : Ip4) (own : Option UInt8) : List (Option Query) :=
  (List.range' 2 253).map fun host =>
    if own = some (UInt8.ofNat host) then none
    else some ⟨base.setIfInBounds 3 (UInt8.ofNat host), sender⟩

/-- The sweep of the Wi-Fi network, when it is known; the relay does not ask for itself. -/
def wifiQueries (c : Config) : List (Option Query) :=
  if c.wifiSubnetKnown then hostQueries c.wifiIp c.wifiIp (some (octet c.wifiIp 3)) else []

/-- What the ticks of one cycle ask. -/
def cycle (c : Config) : List (Option Query) :=
  wifiQueries c ++ (hostQueries c.subnetNet c.gatewayIp none ++ List.replicate 600 none)

/-- The ARP request of a query. -/
def queryFrame (c : Config) (q : Query) : Injection :=
  ⟨.wifi, etherHeader broadcastMac c.wifiMac etherTypeArp ++
    arpBody arpOpcodeRequest c.wifiMac q.sender noneMac q.target⟩

/-- The frames of tick `n`, counted from zero. -/
def tickFrames (c : Config) (n : Nat) : List Injection :=
  ((cycle c).getD (n % (cycle c).length) none).toList.map (queryFrame c)

/-! ## Where the search is -/

/-- The ticks of the Wi-Fi sweep. -/
def wifiTicks (known : Bool) : Nat := if known then 253 else 0

/-- The fields of the struct at a place in the cycle. -/
def sweepAt (known : Bool) (p : Nat) : Sweep :=
  if p < wifiTicks known then ⟨UInt8.ofNat (p + 2), 0, true⟩
  else if p < wifiTicks known + 253 then ⟨UInt8.ofNat (p - wifiTicks known + 2), 0, false⟩
  else ⟨2, UInt16.ofNat (wifiTicks known + 853 - p), known⟩

@[simp] theorem length_hostQueries (base sender : Ip4) (own : Option UInt8) :
    (hostQueries base sender own).length = 253 := by
  rw [hostQueries, List.length_map, List.length_range']

@[simp] theorem length_wifiQueries (c : Config) :
    (wifiQueries c).length = wifiTicks c.wifiSubnetKnown := by
  unfold wifiQueries wifiTicks
  split <;> simp

theorem length_cycle (c : Config) : (cycle c).length = wifiTicks c.wifiSubnetKnown + 853 := by
  rw [cycle, List.length_append, List.length_append, length_wifiQueries, length_hostQueries,
    List.length_replicate]

theorem getD_hostQueries {base sender : Ip4} {own : Option UInt8} {i : Nat} (h : i < 253) :
    (hostQueries base sender own).getD i none =
      if own = some (UInt8.ofNat (i + 2)) then none
      else some ⟨base.setIfInBounds 3 (UInt8.ofNat (i + 2)), sender⟩ := by
  rw [List.getD_eq_getElem _ _ (by simpa using h)]
  simp only [hostQueries, List.getElem_map, List.getElem_range', Nat.one_mul, Nat.add_comm 2 i]

section Cycle

variable {c : Config} {p : Nat}

theorem getD_cycle_wifi (hknown : c.wifiSubnetKnown = true) (h : p < 253) :
    (cycle c).getD p none =
      if octet c.wifiIp 3 = UInt8.ofNat (p + 2) then none
      else some ⟨c.wifiIp.setIfInBounds 3 (UInt8.ofNat (p + 2)), c.wifiIp⟩ := by
  have hlt : p < (wifiQueries c).length := by simpa [wifiTicks, hknown] using h
  rw [cycle, List.getD_append _ _ _ _ hlt, wifiQueries, if_pos hknown, getD_hostQueries h]
  simp only [Option.some.injEq]

theorem getD_cycle_subnet (hge : wifiTicks c.wifiSubnetKnown ≤ p)
    (h : p < wifiTicks c.wifiSubnetKnown + 253) :
    (cycle c).getD p none =
      some ⟨c.subnetNet.setIfInBounds 3 (UInt8.ofNat (p - wifiTicks c.wifiSubnetKnown + 2)),
        c.gatewayIp⟩ := by
  rw [cycle, List.getD_append_right _ _ _ _ (by simpa using hge), length_wifiQueries,
    List.getD_append _ _ _ _ (by rw [length_hostQueries]; omega), getD_hostQueries (by omega)]
  simp

theorem getD_cycle_pause (hge : wifiTicks c.wifiSubnetKnown + 253 ≤ p) :
    (cycle c).getD p none = none := by
  rw [cycle, List.getD_append_right _ _ _ _ (by rw [length_wifiQueries]; omega),
    length_wifiQueries, List.getD_append_right _ _ _ _ (by rw [length_hostQueries]; omega)]
  rw [List.getD_eq_getElem?_getD, List.getElem?_replicate]
  split <;> rfl

end Cycle

/-! ## One tick -/

section Tick

variable {env : Env} {w : World}

/-- No probe after a console has been seen. -/
theorem tick_seen (hseen : w.lp.switchSeen = true) : switchDiscoveryTimerCb env w = .ok () w := by
  rw [switchDiscoveryTimerCb, bind_ok (getLp_apply w), if_pos hseen]
  rfl

theorem tick_paused (hunseen : w.lp.switchSeen = false) (hpause : w.lp.sweep.pauseTicks ≠ 0) :
    ∃ w', switchDiscoveryTimerCb env w = .ok () w' ∧ w'.sent = w.sent ∧
      w'.lp.sweep = ⟨w.lp.sweep.host, w.lp.sweep.pauseTicks - 1, w.lp.sweep.wifiPhase⟩ := by
  refine ⟨{ w with lp := { w.lp with
    switchDiscoveryPauseTicks := w.lp.switchDiscoveryPauseTicks - 1 } }, ?_, rfl, rfl⟩
  have hpause' : w.lp.switchDiscoveryPauseTicks ≠ 0 := hpause
  rw [switchDiscoveryTimerCb, bind_ok (getLp_apply w), hunseen, if_neg Bool.false_ne_true,
    if_pos hpause']
  rfl

/-- What a tick outside the pause asks. -/
def queryOf (lp : LanPlay) (wifiPhase : Bool) : Option Query :=
  if wifiPhase then
    if octet lp.wifiIp 3 = lp.switchDiscoveryHost then none
    else some ⟨lp.wifiIp.setIfInBounds 3 lp.switchDiscoveryHost, lp.wifiIp⟩
  else
    some ⟨lp.packetCtx.subnetNet.setIfInBounds 3 lp.switchDiscoveryHost, lp.packetCtx.ip⟩

theorem octet_setIfInBounds (ip : Ip4) (host : UInt8) :
    octet (ip.setIfInBounds 3 host) 3 = host := by
  rw [octet_eq _ (by decide)]
  exact Vector.getElem_setIfInBounds_self _

theorem sweep_advance (wifiPhase : Bool) (lp : LanPlay) :
    (advanceDiscovery wifiPhase lp).sweep =
      if lp.sweep.host + 1 = 0 ∨ lp.sweep.host + 1 = 255 then
        if wifiPhase then ⟨2, lp.sweep.pauseTicks, false⟩ else ⟨2, 600, lp.wifiSubnetKnown⟩
      else ⟨lp.sweep.host + 1, lp.sweep.pauseTicks, lp.sweep.wifiPhase⟩ := by
  have hhost : lp.sweep.host = lp.switchDiscoveryHost := rfl
  rw [hhost, advanceDiscovery]
  by_cases hlast : lp.switchDiscoveryHost + 1 = 0 ∨ lp.switchDiscoveryHost + 1 = 255
  · rw [if_pos hlast, if_pos hlast]
    cases wifiPhase <;> rfl
  · rw [if_neg hlast, if_neg hlast]
    rfl

theorem tick_probing {wifiPhase : Bool} (hunseen : w.lp.switchSeen = false)
    (hpause : w.lp.sweep.pauseTicks = 0)
    (hphase : (w.lp.sweep.wifiPhase && w.lp.wifiSubnetKnown) = wifiPhase) :
    ∃ w', switchDiscoveryTimerCb env w = .ok () w' ∧
      w'.sent = w.sent ++ (queryOf w.lp wifiPhase).toList.map (queryFrame w.lp.config) ∧
      w'.lp.sweep = (advanceDiscovery wifiPhase w.lp).sweep := by
  have hnot : ¬ w.lp.switchDiscoveryPauseTicks ≠ 0 := not_not.mpr hpause
  have hphase' : (w.lp.switchDiscoveryWifiPhase && w.lp.wifiSubnetKnown) = wifiPhase := hphase
  rw [switchDiscoveryTimerCb, bind_ok (getLp_apply w), hunseen, if_neg Bool.false_ne_true,
    if_neg hnot, hphase']
  cases wifiPhase with
  | false =>
    refine ⟨_, rfl, rfl, ?_⟩
    rw [sweep_advance, sweep_advance]
    rfl
  | true =>
    by_cases hown : octet w.lp.wifiIp 3 = w.lp.switchDiscoveryHost
    · simp only [if_true, octet_setIfInBounds, hown, and_true, queryOf, pure_bind]
      exact ⟨_, rfl, (List.append_nil _).symm, rfl⟩
    · have hother : ¬ w.lp.switchDiscoveryHost = octet w.lp.wifiIp 3 := fun h => hown h.symm
      simp only [if_true, octet_setIfInBounds, hown, hother, and_false, if_false, queryOf]
      refine ⟨_, rfl, rfl, ?_⟩
      rw [sweep_advance, sweep_advance]
      rfl

end Tick

/-! ## A tick at a place in the cycle -/

theorem host_succ (i : Nat) : UInt8.ofNat (i + 2) + 1 = UInt8.ofNat (i + 1 + 2) := by
  rw [← UInt8.toNat_inj, UInt8.toNat_add, UInt8.toNat_ofNat', UInt8.toNat_ofNat', UInt8.toNat_one]
  omega

/-- The counter leaves the sweep at 255. -/
theorem host_last {i : Nat} (h : i < 253) :
    (UInt8.ofNat (i + 2) + 1 = 0 ∨ UInt8.ofNat (i + 2) + 1 = 255) ↔ i = 252 := by
  rw [host_succ, ← UInt8.toNat_inj, ← UInt8.toNat_inj, UInt8.toNat_ofNat', UInt8.toNat_zero,
    show (255 : UInt8).toNat = 255 from rfl]
  omega

theorem pause_pred {k : Nat} (hpos : 0 < k) (hle : k ≤ 600) :
    UInt16.ofNat k ≠ 0 ∧ UInt16.ofNat k - 1 = UInt16.ofNat (k - 1) := by
  have hk : (UInt16.ofNat k).toNat = k := by
    rw [UInt16.toNat_ofNat']
    omega
  have hone : (1 : UInt16) ≤ UInt16.ofNat k := by
    rw [UInt16.le_iff_toNat_le, hk]
    exact hpos
  refine ⟨fun hzero => ?_, ?_⟩
  · rw [hzero] at hk
    exact absurd hk (by simp; omega)
  · rw [← UInt16.toNat_inj, UInt16.toNat_sub_of_le _ _ hone, hk, UInt16.toNat_ofNat', UInt16.toNat_one]
    omega

/-- The place after a place. -/
def nextPlace (known : Bool) (p : Nat) : Nat := (p + 1) % (wifiTicks known + 853)

section Places

variable {known : Bool} {p : Nat}

theorem sweepAt_wifi (h : p < wifiTicks known) : sweepAt known p = ⟨UInt8.ofNat (p + 2), 0, true⟩ := by
  rw [sweepAt, if_pos h]

theorem sweepAt_subnet (hge : wifiTicks known ≤ p) (h : p < wifiTicks known + 253) :
    sweepAt known p = ⟨UInt8.ofNat (p - wifiTicks known + 2), 0, false⟩ := by
  rw [sweepAt, if_neg (by omega), if_pos h]

theorem sweepAt_pause (hge : wifiTicks known + 253 ≤ p) :
    sweepAt known p = ⟨2, UInt16.ofNat (wifiTicks known + 853 - p), known⟩ := by
  rw [sweepAt, if_neg (by omega), if_neg (by omega)]

/-- The start of a cycle is where the pause ends. -/
theorem sweepAt_start : sweepAt known 0 = ⟨2, 0, known⟩ := by
  cases known <;> rfl

end Places

theorem wifiTicks_pos {known : Bool} {p : Nat} (h : p < wifiTicks known) :
    known = true ∧ wifiTicks known = 253 := by
  cases known with
  | false => exact absurd h (Nat.not_lt_zero p)
  | true => exact ⟨rfl, rfl⟩

/-- A tick asks what the cycle has at `p`, and moves on. -/
def TicksAt (env : Env) (p : Nat) (w : World) : Prop :=
  ∃ w', switchDiscoveryTimerCb env w = .ok () w' ∧
    w'.sent = w.sent ++ ((cycle w.lp.config).getD p none).toList.map (queryFrame w.lp.config) ∧
    w'.lp.sweep = sweepAt w.lp.wifiSubnetKnown (nextPlace w.lp.wifiSubnetKnown p)

section Place

variable {env : Env} {w : World} {p : Nat}

theorem tick_wifi (hunseen : w.lp.switchSeen = false) (h : p < wifiTicks w.lp.wifiSubnetKnown)
    (hat : w.lp.sweep = sweepAt w.lp.wifiSubnetKnown p) :
    TicksAt env p w := by
  obtain ⟨hknown, hticks⟩ := wifiTicks_pos h
  rw [sweepAt_wifi h] at hat
  have hhost : w.lp.switchDiscoveryHost = UInt8.ofNat (p + 2) := congrArg Sweep.host hat
  obtain ⟨w', hrun, hsent, hsweep⟩ := @tick_probing env w true hunseen
    (congrArg Sweep.pauseTicks hat) (by rw [hat, hknown]; rfl)
  refine ⟨w', hrun, ?_, ?_⟩
  · rw [hsent, queryOf, if_pos rfl, hhost, getD_cycle_wifi hknown (by omega)]
    rfl
  · rw [hsweep, sweep_advance, hat, nextPlace, Nat.mod_eq_of_lt (by omega)]
    by_cases hlast : p = 252
    · subst hlast
      rw [if_pos ((host_last (by omega)).mpr rfl), if_pos rfl, sweepAt_subnet (by omega) (by omega),
        hticks]
      rfl
    · rw [if_neg (mt (host_last (by omega)).mp hlast), sweepAt_wifi (by omega)]
      exact congrArg (fun host => (⟨host, 0, true⟩ : Sweep)) (host_succ p)

theorem tick_subnet (hunseen : w.lp.switchSeen = false) (hge : wifiTicks w.lp.wifiSubnetKnown ≤ p)
    (h : p < wifiTicks w.lp.wifiSubnetKnown + 253)
    (hat : w.lp.sweep = sweepAt w.lp.wifiSubnetKnown p) :
    TicksAt env p w := by
  rw [sweepAt_subnet hge h] at hat
  have hhost : w.lp.switchDiscoveryHost = UInt8.ofNat (p - wifiTicks w.lp.wifiSubnetKnown + 2) :=
    congrArg Sweep.host hat
  obtain ⟨w', hrun, hsent, hsweep⟩ := @tick_probing env w false hunseen
    (congrArg Sweep.pauseTicks hat) (by rw [hat]; rfl)
  refine ⟨w', hrun, ?_, ?_⟩
  · rw [hsent, queryOf, if_neg Bool.false_ne_true, hhost, getD_cycle_subnet hge h]
    rfl
  · rw [hsweep, sweep_advance, hat, nextPlace, Nat.mod_eq_of_lt (by omega)]
    by_cases hlast : p - wifiTicks w.lp.wifiSubnetKnown = 252
    · rw [if_pos ((host_last (by omega)).mpr hlast), if_neg Bool.false_ne_true,
        sweepAt_pause (by omega),
        show wifiTicks w.lp.wifiSubnetKnown + 853 - (p + 1) = 600 by omega]
      rfl
    · rw [if_neg (mt (host_last (by omega)).mp hlast), sweepAt_subnet (by omega) (by omega),
        Nat.sub_add_comm hge]
      exact congrArg (fun host => (⟨host, 0, false⟩ : Sweep)) (host_succ _)

theorem tick_pause (hunseen : w.lp.switchSeen = false)
    (hge : wifiTicks w.lp.wifiSubnetKnown + 253 ≤ p) (h : p < wifiTicks w.lp.wifiSubnetKnown + 853)
    (hat : w.lp.sweep = sweepAt w.lp.wifiSubnetKnown p) :
    TicksAt env p w := by
  rw [sweepAt_pause hge] at hat
  obtain ⟨hne, hpred⟩ := pause_pred (k := wifiTicks w.lp.wifiSubnetKnown + 853 - p) (by omega)
    (by omega)
  obtain ⟨w', hrun, hsent, hsweep⟩ := @tick_paused env w hunseen (by rw [hat]; exact hne)
  refine ⟨w', hrun, ?_, ?_⟩
  · rw [hsent, getD_cycle_pause hge]
    exact (List.append_nil _).symm
  · rw [hsweep, hat, hpred, nextPlace]
    by_cases hlast : p + 1 = wifiTicks w.lp.wifiSubnetKnown + 853
    · rw [hlast, Nat.mod_self, sweepAt_start,
        show wifiTicks w.lp.wifiSubnetKnown + 853 - p - 1 = 0 by omega]
      rfl
    · rw [Nat.mod_eq_of_lt (by omega), sweepAt_pause (by omega), Nat.sub_sub]

theorem tick_at (hunseen : w.lp.switchSeen = false)
    (h : p < wifiTicks w.lp.wifiSubnetKnown + 853)
    (hat : w.lp.sweep = sweepAt w.lp.wifiSubnetKnown p) :
    TicksAt env p w := by
  by_cases hwifi : p < wifiTicks w.lp.wifiSubnetKnown
  · exact tick_wifi hunseen hwifi hat
  by_cases hsubnet : p < wifiTicks w.lp.wifiSubnetKnown + 253
  · exact tick_subnet hunseen (by omega) hsubnet hat
  · exact tick_pause hunseen (by omega) h hat

end Place

/-! ## Runs -/

/-- Callbacks one after the other, each in an environment of its own. -/
def course (steps : List (Env × Event)) (w : World) : World :=
  steps.foldl (fun w step => after (handle step.1 step.2 w)) w

def Event.isTick : Event → Bool
  | .discovery => true
  | _ => false

/-- How often the timer has fired. -/
def ticks (steps : List (Env × Event)) : Nat := steps.countP fun step => step.2.isTick

theorem course_append (steps more : List (Env × Event)) (w : World) :
    course (steps ++ more) w = course more (course steps w) := List.foldl_append

theorem course_concat (steps : List (Env × Event)) (env : Env) (event : Event) (w : World) :
    course (steps ++ [(env, event)]) w = after (handle env event (course steps w)) :=
  course_append steps [(env, event)] w

theorem course_config (steps : List (Env × Event)) (w : World) :
    (course steps w).lp.config = w.lp.config := by
  induction steps using List.reverseRecOn with
  | nil => rfl
  | append_singleton steps step ih =>
    rw [course_concat]
    exact (handle_config step.1 step.2 _).trans ih

instance (self : Ctx) : IgnoresArp self (Preserves fun c => c.console.switchSeen = true) where
  arp _ _ := by cases self <;> exact id

instance : Probes (Preserves fun c => c.console.switchSeen = true) where
  probe _ _ _ _ := id

instance : Learns (Preserves fun c => c.console.switchSeen = true) := .of_switch fun _ _ _ _ => rfl

/-- No callback forgets the console. -/
theorem course_seen (steps : List (Env × Event)) {w : World} (h : w.lp.switchSeen = true) :
    (course steps w).lp.switchSeen = true := by
  induction steps using List.reverseRecOn with
  | nil => exact h
  | append_singleton steps step ih =>
    rw [course_concat]
    exact (steps_handle step.1 step.2 : Steps (Preserves fun c => c.console.switchSeen = true) _) _
      ih

/-- The place of the search is the number of ticks, whatever came between them. -/
theorem course_sweep (steps : List (Env × Event)) {w : World}
    (hstart : w.lp.sweep = ⟨2, 0, w.lp.wifiSubnetKnown⟩)
    (hunseen : (course steps w).lp.switchSeen = false) :
    (course steps w).lp.sweep =
      sweepAt w.lp.wifiSubnetKnown (ticks steps % (wifiTicks w.lp.wifiSubnetKnown + 853)) := by
  induction steps using List.reverseRecOn with
  | nil => exact hstart.trans sweepAt_start.symm
  | append_singleton steps step ih =>
    obtain ⟨env, event⟩ := step
    rw [course_concat] at hunseen ⊢
    have hbefore : (course steps w).lp.switchSeen = false := by
      by_contra hseen
      rw [Bool.not_eq_false] at hseen
      have hstill := course_seen [(env, event)] hseen
      exact absurd (hunseen.symm.trans hstill) Bool.false_ne_true
    have hplace := ih hbefore
    have hknown : (course steps w).lp.wifiSubnetKnown = w.lp.wifiSubnetKnown :=
      congrArg Config.wifiSubnetKnown (course_config steps w)
    by_cases htick : event = .discovery
    · subst htick
      have hticks : ticks (steps ++ [(env, .discovery)]) = ticks steps + 1 := by
        simp [ticks, Event.isTick]
      obtain ⟨w', hrun, -, hsweep⟩ := @tick_at env (course steps w)
        (ticks steps % (wifiTicks w.lp.wifiSubnetKnown + 853)) hbefore
        (by rw [hknown]; exact Nat.mod_lt _ (by omega)) (by rw [hknown]; exact hplace)
      rw [handle, hrun, after_ok, hsweep, hknown, nextPlace, hticks, Nat.mod_add_mod]
    · have hticks : ticks (steps ++ [(env, event)]) = ticks steps := by
        cases event with
        | discovery => exact absurd rfl htick
        | wifi _ | zerotier _ | lwip _ | proxied _ _ _ => simp [ticks, Event.isTick]
      rw [hticks, ← hplace]
      exact (steps_handle_of_ne env htick : Steps (Same fun w : World => w.lp.sweep) _) _

/-- **Discovery.** After a start with `--discover-switch`, as long as no console has been seen,
a tick sends what the cycle has for the number of ticks before it, and nothing else. Once one
has been seen, no tick does anything any more. -/
theorem discovery_sweeps {env₀ : Env} {setup : Setup} {w₀ w : World}
    (start : lanPlayInit env₀ setup w₀ = .ok 0 w) (hdiscover : setup.discoverSwitch = true)
    (steps : List (Env × Event)) (env : Env) :
    ((course steps w).lp.switchSeen = false →
      ∃ w', handle env .discovery (course steps w) = .ok () w' ∧
        w'.sent = (course steps w).sent ++ tickFrames w.lp.config (ticks steps)) ∧
    ((course steps w).lp.switchSeen = true → ∀ more,
      handle env .discovery (course more (course steps w)) =
        .ok () (course more (course steps w))) := by
  constructor
  · intro hunseen
    have hstart : w.lp.sweep = ⟨2, 0, w.lp.wifiSubnetKnown⟩ := by
      obtain ⟨n, asked, -, -, rfl⟩ := lanPlayInit_started start
      simp [LanPlay.sweep, Network.started, Setup.withDiscovery, hdiscover]
    have hconfig := course_config steps w
    have hknown : (course steps w).lp.wifiSubnetKnown = w.lp.wifiSubnetKnown :=
      congrArg Config.wifiSubnetKnown hconfig
    have hplace := course_sweep steps hstart hunseen
    obtain ⟨w', hrun, hsent, -⟩ := @tick_at env (course steps w)
      (ticks steps % (wifiTicks w.lp.wifiSubnetKnown + 853)) hunseen
      (by rw [hknown]; exact Nat.mod_lt _ (by omega)) (by rw [hknown]; exact hplace)
    refine ⟨w', hrun, ?_⟩
    rw [hsent, hconfig, tickFrames, length_cycle]
    rfl
  · intro hseen more
    exact tick_seen (course_seen more hseen)

/-- The options and adapters of a session that looks for its console. -/
def searchSetup : Setup :=
  { plainSetup (ip4 10 147 17 5) (mac6 0x02 0 0 0 0 0x20) with discoverSwitch := true }

theorem started_unseen {r : EStateM.Result Fault World Int}
    (h : startsOk r = true ∧ (after r).lp.switchSeen = false) :
    ∃ w, r = .ok 0 w ∧ w.lp.switchSeen = false := ⟨after r, eq_ok_of_startsOk h.1, h.2⟩

theorem course_ticks (env : Env) (n : Nat) (w : World) :
    (course (List.replicate n (env, .discovery)) w).lp.switchSeen = w.lp.switchSeen := by
  induction n with
  | zero => rfl
  | succ n ih =>
    have htick : Steps (Same fun w : World => w.lp.core.console) (switchDiscoveryTimerCb env) :=
      steps_switchDiscoveryTimerCb env
    rw [List.replicate_succ', course_concat]
    exact (congrArg Console.switchSeen (htick _)).trans ih

/-- A tick of the second cycle. -/
theorem discovery_sweeps_again :
    ∃ w w', lanPlayInit (calmEnv 1000) searchSetup World.boot = .ok 0 w ∧
      handle (calmEnv 1000) .discovery
        (course (List.replicate 1200 (calmEnv 1000, .discovery)) w) = .ok () w' ∧
      w'.sent = (course (List.replicate 1200 (calmEnv 1000, .discovery)) w).sent ++
        tickFrames w.lp.config 1200 := by
  obtain ⟨w, hstart, hunseen⟩ := @started_unseen
    (lanPlayInit (calmEnv 1000) searchSetup World.boot) (by decide +kernel)
  have hticks : ticks (List.replicate 1200 (calmEnv 1000, .discovery)) = 1200 := by
    rw [ticks, List.countP_replicate]
    exact if_pos rfl
  obtain ⟨w', hrun, hsent⟩ := (discovery_sweeps hstart rfl
    (List.replicate 1200 (calmEnv 1000, .discovery)) (calmEnv 1000)).1
      ((course_ticks _ _ _).trans hunseen)
  rw [hticks] at hsent
  exact ⟨w, w', hstart, hrun, hsent⟩

end Grid0Relay
