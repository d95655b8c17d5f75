import Grid0Relay.Theorems.Leases

/-!
# The addresses a DISCOVER is offered

Two ways in which the DHCP server and the detection of the console disagree. The
server may offer the console's address to another device, and may offer the console
an address other than the one the relay knows it by. `Usurps` and `Drifts` are the
states in which this happens, for a given run of the clock.
-/

namespace Grid0Relay

open Lib Lib.Exec

section Offers

variable {env : Env} {frame : Bytes} {w : World}

/-- The table has a slot for the client. -/
def LeaseTable.HasSlot (t : LeaseTable) (mac : Mac) : Prop :=
  ∃ l ∈ t.slots, l.ownedBy mac = true ∨ l.used = false
deriving Decidable

theorem LeaseTable.HasSlot.claim_ne_none {t : LeaseTable} {x : DhcpLease} (h : t.HasSlot x.mac) :
    t.claim x ≠ none := by
  intro hnone
  obtain ⟨hother, hused⟩ := LeaseTable.claim_none.mp hnone
  obtain ⟨l, hl, hown | hfree⟩ := h
  · rw [hother l hl] at hown
    cases hown
  · rw [hused l hl] at hfree
    cases hfree

theorem LeaseTable.hasSlot_of_claim {t t' : LeaseTable} {x : DhcpLease}
    (h : t.claim x = some t') : t.HasSlot x.mac := by
  by_contra hno
  have hnone : t.claim x = none := by
    refine LeaseTable.claim_none.mpr ⟨fun l hl => ?_, fun l hl => ?_⟩
    · exact Bool.eq_false_iff.mpr fun hown => hno ⟨l, hl, Or.inl hown⟩
    · exact Bool.ne_false_iff.mp fun hfree => hno ⟨l, hl, Or.inr hfree⟩
  rw [hnone] at h
  cases h

/-- What a DISCOVER of a Nintendo client leads to. -/
theorem discover_outcome (env : Env) (w : World)
    (nintendo : isNintendoMac (Frame.etherSrc frame))
    (discover : messageType frame = some dhcpMsgDiscover) :
    ¬ Serves env w ∧ (after (dhcpServerConsume env frame w)).dhcpView = w.dhcpView ∨
      Serves env w ∧ Discovered env (Frame.etherSrc frame) (w.swept env)
        (after (dhcpServerConsume env frame w)).dhcpView := by
  obtain ⟨req, parses, hkind⟩ := messageType_eq_some.mp discover
  by_cases serves : Serves env w
  · right
    rw [dhcpServerConsume_parsed serves parses, dhcpHandle, if_neg (by simpa using nintendo),
      if_pos hkind]
    exact ⟨serves, discovered env _ req _⟩
  · left
    refine ⟨serves, ?_⟩
    have hstep := consumed env frame w
    cases hview : (after (dhcpServerConsume env frame w)).dhcpView
    rw [hview] at hstep
    cases hstep with
    | ignored => rfl
    | handled serves' _ _ => exact absurd serves' serves

/-- Every OFFER among the replies of the step has this property. -/
def OffersOnly (P : Ip4 → Prop) (w w' : World) : Prop :=
  ∀ r, Answered w w' r → r.msgType = dhcpMsgOffer → P r.yiaddr

/-- If every address the server could pick has the property, so has every OFFER. -/
theorem offersOnly_of_picked {P : Ip4 → Prop} (nintendo : isNintendoMac (Frame.etherSrc frame))
    (discover : messageType frame = some dhcpMsgDiscover)
    (h : Serves env w → (w.swept env).lp.dhcpState.leases.HasSlot (Frame.etherSrc frame) →
      ∀ ip w', Picked env (Frame.etherSrc frame) (w.swept env) (some ip) w' → P ip) :
    OffersOnly P w (after (dhcpServerConsume env frame w)) := by
  intro r hr _
  rw [Answered] at hr
  rcases discover_outcome env w nintendo discover with
    ⟨-, hview⟩ | ⟨serves, outcome⟩
  · rw [hview] at hr
    exact absurd hr (DhcpView.not_answers rfl)
  generalize (after (dhcpServerConsume env frame w)).dhcpView = view at hr outcome
  cases outcome with
  | noAddress picked => exact absurd hr (DhcpView.not_answers picked.waits.sent)
  | noSlot picked full => exact absurd hr (DhcpView.not_answers picked.waits.tick.sent)
  | offered picked claimed reply =>
    have hreply := (DhcpView.answers_one (w := w.swept env)).mp hr
    have hslot := LeaseTable.hasSlot_of_claim claimed
    rw [reply] at hreply
    subst hreply
    exact h serves hslot _ _ picked

/-- If the server can only pick an address without the property, it offers one. -/
theorem not_offersOnly_of_picked {P : Ip4 → Prop}
    (nintendo : isNintendoMac (Frame.etherSrc frame))
    (discover : messageType frame = some dhcpMsgDiscover) (serves : Serves env w)
    (slot : (w.swept env).lp.dhcpState.leases.HasSlot (Frame.etherSrc frame))
    (h : ∀ r w', Picked env (Frame.etherSrc frame) (w.swept env) r w' →
      ∃ ip, r = some ip ∧ ¬ P ip) :
    ¬ OffersOnly P w (after (dhcpServerConsume env frame w)) := by
  intro honly
  rcases discover_outcome env w nintendo discover with ⟨hoff, -⟩ | ⟨-, outcome⟩
  · exact hoff serves
  rw [OffersOnly] at honly
  simp only [Answered] at honly
  generalize (after (dhcpServerConsume env frame w)).dhcpView = view at honly outcome
  cases outcome with
  | noAddress picked =>
    obtain ⟨ip, hnone, -⟩ := h _ _ picked
    cases hnone
  | noSlot picked full => exact absurd full (LeaseTable.HasSlot.claim_ne_none slot)
  | @offered ip w' t f picked claimed reply =>
    obtain ⟨ip', hip, hbad⟩ := h _ _ picked
    injection hip with hip
    subst hip
    exact hbad (honly ⟨dhcpMsgOffer, ip, Frame.etherSrc frame⟩
      ((DhcpView.answers_one (w := w.swept env)).mpr reply) rfl)

/-! ## The console's address for another device -/

/-- The client holds a lease for the address that is unexpired when the server picks. -/
def HoldsLease (env : Env) (w : World) (mac : Mac) (ip : Ip4) : Prop :=
  ∃ l ∈ w.lp.dhcpState.leases.slots,
    l.used ∧ l.mac = mac ∧ l.ip = ip ∧ env.clock (w.readings + 1) < l.expires

/-- A device without a lease meets the relay's own address free, and that address is the
console's. -/
def Usurps (env : Env) (w : World) (mac : Mac) : Prop :=
  Serves env w ∧ (w.swept env).lp.dhcpState.leases.HasSlot mac ∧
    ownLease (w.swept env).lp mac (env.clock (w.readings + 1)) = none ∧
    Preferred env (w.swept env).lp mac (env.clock (w.readings + 1)) (w.readings + 2) ∧
    w.lp.zerotierIp = w.lp.switchIp ∧ ¬ HoldsLease env w mac w.lp.switchIp

/-- Another device is offered the console's address exactly when it is the relay's own
address and nothing answers for it any more. -/
theorem console_address_reserved_iff (env : Env) (w : World) (frame : Bytes)
    (seen : w.lp.switchSeen) (nintendo : isNintendoMac (Frame.etherSrc frame))
    (discover : messageType frame = some dhcpMsgDiscover) :
    OffersOnly (fun ip => ip ≠ w.lp.switchIp ∨
        HoldsLease env w (Frame.etherSrc frame) w.lp.switchIp) w
        (after (dhcpServerConsume env frame w)) ↔
      ¬ Usurps env w (Frame.etherSrc frame) := by
  constructor
  · rintro honly ⟨serves, slot, hnone, hpreferred, hself, hfree⟩
    refine not_offersOnly_of_picked nintendo discover serves slot (fun r w' hpicked => ?_) honly
    cases hpicked with
    | own own => cases own.symm.trans hnone
    | preferred none preferred =>
      exact ⟨_, rfl, fun h => h.elim (fun hne => hne hself) hfree⟩
    | pool none passed waits isOpen address => exact absurd hpreferred passed
  · intro hno
    refine offersOnly_of_picked nintendo discover fun serves slot ip w' hpicked => ?_
    by_cases hheld : HoldsLease env w (Frame.etherSrc frame) w.lp.switchIp
    · exact Or.inr hheld
    refine Or.inl fun hip => ?_
    cases hpicked with
    | @own l own =>
      obtain ⟨hl, hused, hmac, hexpires⟩ := ownLease_some own
      have hold := ((mem_dhcpSweepExpired hused).mp hl).1
      exact hheld ⟨l, hold, hused, hmac, hip, hexpires⟩
    | preferred none preferred => exact hno ⟨serves, slot, none, preferred, hip, hheld⟩
    | pool none passed waits isOpen address => exact (address ip rfl).notConsole seen hip

/-- A console that has taken the relay's own address, as the server hands it out. -/
def sharedFrame : Bytes :=
  etherHeader broadcastMac firstConsole etherTypeArp ++
    arpBody arpOpcodeRequest firstConsole (ip4 10 147 17 5) noneMac (ip4 10 147 17 1)

def sharedWorld : World := after (handle (calmEnv 1000) (.wifi sharedFrame) plainWorld)

theorem sharedWorld_reachable : Reachable sharedWorld := Process.event _ _ plainWorld_reachable

theorem console_address_reserved_elsewhere :
    OffersOnly (fun ip => ip ≠ consoleWorld.lp.switchIp ∨
        HoldsLease (serverEnv 1000) consoleWorld (Frame.etherSrc (discoverFrame secondConsole))
          consoleWorld.lp.switchIp) consoleWorld
      (after (dhcpServerConsume (serverEnv 1000) (discoverFrame secondConsole) consoleWorld)) := by
  have hfacts : consoleWorld.lp.zerotierIp ≠ consoleWorld.lp.switchIp ∧
      consoleWorld.lp.switchSeen ∧ isNintendoMac (Frame.etherSrc (discoverFrame secondConsole)) ∧
      messageType (discoverFrame secondConsole) = some dhcpMsgDiscover := by decide +kernel
  obtain ⟨hself, hseen, hnintendo, hdiscover⟩ := hfacts
  refine (console_address_reserved_iff _ _ _ hseen hnintendo hdiscover).mpr ?_
  rintro ⟨-, -, -, -, hsame, -⟩
  exact hself hsame

/-- Half a minute after the console was last heard, a second one is offered its address. -/
theorem console_address_usurped :
    Reachable sharedWorld ∧ sharedWorld.lp.switchSeen ∧
      isNintendoMac (Frame.etherSrc (discoverFrame secondConsole)) ∧
      Frame.etherSrc (discoverFrame secondConsole) ≠ sharedWorld.lp.switchMac ∧
      messageType (discoverFrame secondConsole) = some dhcpMsgDiscover ∧
      Answered sharedWorld (after (dhcpServerConsume (serverEnv 1031)
        (discoverFrame secondConsole) sharedWorld))
        ⟨dhcpMsgOffer, sharedWorld.lp.switchIp, secondConsole⟩ ∧
      ¬ ∃ l ∈ sharedWorld.lp.dhcpState.leases.slots, l.used ∧ l.mac = secondConsole :=
  ⟨sharedWorld_reachable, by decide +kernel⟩

/-! ## Another address for the console -/

/-- The server has an address for the client that is not the console's. -/
def Drifts (env : Env) (w : World) (mac : Mac) : Prop :=
  Serves env w ∧ (w.swept env).lp.dhcpState.leases.HasSlot mac ∧
    ((∃ l, ownLease (w.swept env).lp mac (env.clock (w.readings + 1)) = some l ∧
        l.ip ≠ w.lp.switchIp) ∨
      ownLease (w.swept env).lp mac (env.clock (w.readings + 1)) = none ∧
        ¬ Preferred env (w.swept env).lp mac (env.clock (w.readings + 1)) (w.readings + 2) ∧
        PoolFor env (w.swept env).lp mac (env.clock (w.readings + 1)) (w.readings + 2))

/-- Once a console was seen, a client is offered nothing but its address exactly when the
client has no other lease and the pool is not asked or has nothing. -/
theorem console_address_stable_iff (env : Env) (w : World) (frame : Bytes)
    (seen : w.lp.switchSeen) (nintendo : isNintendoMac (Frame.etherSrc frame))
    (discover : messageType frame = some dhcpMsgDiscover) :
    OffersOnly (· = w.lp.switchIp) w (after (dhcpServerConsume env frame w)) ↔
      ¬ Drifts env w (Frame.etherSrc frame) := by
  constructor
  · rintro honly ⟨serves, slot, hdrift⟩
    refine not_offersOnly_of_picked nintendo discover serves slot (fun r w' hpicked => ?_) honly
    cases hpicked with
    | @own l own =>
      rcases hdrift with ⟨l', hl', hother⟩ | ⟨hnone, -, -⟩
      · obtain rfl : l = l' := Option.some.inj (own.symm.trans hl')
        exact ⟨l.ip, rfl, hother⟩
      · cases own.symm.trans hnone
    | preferred none preferred =>
      rcases hdrift with ⟨l', hl', -⟩ | ⟨-, hpassed, -⟩
      · cases none.symm.trans hl'
      · exact absurd preferred hpassed
    | pool none passed waits isOpen address =>
      rcases hdrift with ⟨l', hl', -⟩ | ⟨-, -, hopen⟩
      · cases none.symm.trans hl'
      · obtain ⟨ip, rfl⟩ := Option.isSome_iff_exists.mp (isOpen.mpr hopen)
        exact ⟨ip, rfl, (address ip rfl).notConsole seen⟩
  · intro hno
    refine offersOnly_of_picked nintendo discover fun serves slot ip w' hpicked => ?_
    cases hpicked with
    | @own l own =>
      by_contra hother
      exact hno ⟨serves, slot, Or.inl ⟨l, own, hother⟩⟩
    | preferred none preferred => exact preferred.2.2 seen
    | pool none passed waits isOpen address =>
      exact absurd ⟨serves, slot, Or.inr ⟨none, passed, isOpen.mp rfl⟩⟩ hno

theorem console_address_stable_shared :
    OffersOnly (· = sharedWorld.lp.switchIp) sharedWorld
      (after (dhcpServerConsume (serverEnv 1031) (discoverFrame firstConsole) sharedWorld)) := by
  have hpreferred : Preferred (serverEnv 1031) (sharedWorld.swept (serverEnv 1031)).lp
      (Frame.etherSrc (discoverFrame firstConsole)) 1031 (sharedWorld.readings + 2) := by
    unfold Preferred
    decide +kernel
  have hfacts : ownLease (sharedWorld.swept (serverEnv 1031)).lp
      (Frame.etherSrc (discoverFrame firstConsole)) 1031 = none ∧ sharedWorld.lp.switchSeen ∧
      isNintendoMac (Frame.etherSrc (discoverFrame firstConsole)) ∧
      messageType (discoverFrame firstConsole) = some dhcpMsgDiscover := by decide +kernel
  obtain ⟨hnone, hseen, hnintendo, hdiscover⟩ := hfacts
  refine (console_address_stable_iff _ _ _ hseen hnintendo hdiscover).mpr ?_
  rintro ⟨-, -, ⟨l, hl, -⟩ | ⟨-, hpassed, -⟩⟩
  · cases hnone.symm.trans hl
  · exact hpassed hpreferred

/-- A console with an address of its own choice in the ZeroTier subnet asks for one and is
offered another. -/
theorem console_address_drifts :
    Reachable consoleWorld ∧ consoleWorld.lp.switchSeen ∧
      maskIp consoleWorld.lp.switchIp consoleWorld.lp.zerotierNetmask =
        maskIp consoleWorld.lp.zerotierIp consoleWorld.lp.zerotierNetmask ∧
      consoleWorld.lp.switchMac = Frame.etherSrc (discoverFrame firstConsole) ∧
      isNintendoMac (Frame.etherSrc (discoverFrame firstConsole)) ∧
      messageType (discoverFrame firstConsole) = some dhcpMsgDiscover ∧
      (∀ l ∈ consoleWorld.lp.dhcpState.leases.slots, ¬ l.used) ∧
      Answered consoleWorld (after (dhcpServerConsume (serverEnv 1000)
        (discoverFrame firstConsole) consoleWorld))
        ⟨dhcpMsgOffer, ip4 10 147 17 254, firstConsole⟩ ∧
      consoleWorld.lp.switchIp ≠ ip4 10 147 17 254 :=
  ⟨consoleWorld_reachable, by decide +kernel⟩

end Offers

end Grid0Relay
