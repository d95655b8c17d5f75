import Grid0Relay.Logic.Footprint
import Mathlib.Data.List.Pairwise

/-!
# The lease table

What sweeping, claiming and releasing do to the eight slots of the DHCP server, and
the invariant they keep: one slot for each MAC, no address bound twice, and only
addresses the server may hand out.
-/

namespace Grid0Relay

open Lib Lib.Exec Lib.Slots

/-! ## Addresses -/

/-- An address the server may lease: the relay's own, or one of the 24 below the
broadcast address. -/
def LeaseAddress (c : Config) (ip : Ip4) : Prop :=
  ip = c.zerotierIp ∨
    (ipv4ToU32 c.zerotierIp &&& ipv4ToU32 c.zerotierNetmask < ipv4ToU32 ip ∧
      ipv4ToU32 ip < ipv4ToU32 c.zerotierBroadcastIp ∧
      (ipv4ToU32 c.zerotierBroadcastIp).toNat - (ipv4ToU32 ip).toNat ≤ 24 ∧
      ip ≠ c.gatewayIp ∧ ip ≠ c.zerotierIp)

/-! ## The invariant -/

/-- Two slots that do not compete for a client or, at this time, for an address. -/
structure Compatible (now : Nat) (a b : DhcpLease) : Prop where
  mac : a.used → b.used → a.mac ≠ b.mac
  ip : a.live now → b.live now → a.ip ≠ b.ip

instance (now : Nat) : Std.Symm (Compatible now) :=
  ⟨fun _ _ h => ⟨fun hb ha => (h.mac ha hb).symm, fun hb ha => (h.ip ha hb).symm⟩⟩

theorem DhcpLease.live_iff (now : Nat) (l : DhcpLease) :
    l.live now = true ↔ l.used = true ∧ now < l.expires := by
  simp [DhcpLease.live]

theorem DhcpLease.live_mono {now later : Nat} {l : DhcpLease} (hle : now ≤ later)
    (h : l.live later = true) : l.live now = true := by
  obtain ⟨hused, hexpires⟩ := (l.live_iff later).mp h
  exact (l.live_iff now).mpr ⟨hused, by omega⟩

theorem DhcpLease.ownedBy_iff (mac : Mac) (l : DhcpLease) :
    l.ownedBy mac = true ↔ l.used = true ∧ l.mac = mac := by
  simp [DhcpLease.ownedBy]

theorem Compatible.mono {now later : Nat} {a b : DhcpLease} (hle : now ≤ later)
    (h : Compatible now a b) : Compatible later a b :=
  ⟨h.mac, fun ha hb => h.ip (DhcpLease.live_mono hle ha) (DhcpLease.live_mono hle hb)⟩

/-- A free slot competes with nothing. -/
theorem compatible_zero (now : Nat) (l : DhcpLease) : Compatible now DhcpLease.zero l :=
  ⟨fun h => absurd h (by decide), fun h => absurd ((DhcpLease.live_iff now _).mp h).1 (by decide)⟩

/-- No two slots compete. -/
def LeaseTable.Exclusive (now : Nat) (t : LeaseTable) : Prop := t.slots.Pairwise (Compatible now)

/-- What every used slot holds: a Nintendo client and an address the server leases. -/
def LeaseTable.Permitted (c : Config) (t : LeaseTable) : Prop :=
  ∀ l ∈ t.slots, l.used → isNintendoMac l.mac ∧ LeaseAddress c l.ip

namespace LeaseTable

variable {c : Config} {now later : Nat} {t t' : LeaseTable}

theorem Exclusive.mono (h : t.Exclusive now) (hle : now ≤ later) : t.Exclusive later :=
  h.imp fun hab => hab.mono hle

theorem exclusive_init (now : Nat) : LeaseTable.init.Exclusive now :=
  List.pairwise_replicate.mpr (Or.inr (compatible_zero _ _))

theorem permitted_init (c : Config) : LeaseTable.init.Permitted c := by
  intro l hl hused
  obtain rfl := List.eq_of_mem_replicate hl
  exact absurd hused (by decide)

/-- A used slot is the only one of its client. -/
theorem Exclusive.unique (h : t.Exclusive now) {a b : DhcpLease} (ha : a ∈ t.slots)
    (hb : b ∈ t.slots) (haused : a.used) (hbused : b.used) (hmac : a.mac = b.mac) : a = b := by
  by_contra hne
  exact (h.forall ha hb hne).mac haused hbused hmac

/-- A live slot is the only live one with its address. -/
theorem Exclusive.unique_ip (h : t.Exclusive now) {a b : DhcpLease} (ha : a ∈ t.slots)
    (hb : b ∈ t.slots) (halive : a.live now) (hblive : b.live now) (hip : a.ip = b.ip) : a = b := by
  by_contra hne
  exact (h.forall ha hb hne).ip halive hblive hip

end LeaseTable

/-! ## Sweeping -/

/-- A used slot survives a sweep as it is, or was out of date. -/
theorem mem_dhcpSweepExpired {t : LeaseTable} {now : Nat} {l : DhcpLease} (hused : l.used = true) :
    l ∈ (dhcpSweepExpired t now).slots ↔ l ∈ t.slots ∧ now < l.expires := by
  constructor
  · intro hl
    obtain ⟨l', hl', heq⟩ := List.mem_map.mp hl
    split at heq
    · subst heq
      exact absurd hused (by decide)
    · rename_i hkept
      subst heq
      exact ⟨hl', Nat.lt_of_not_le fun hle => hkept ⟨hused, hle⟩⟩
  · rintro ⟨hl, hexpires⟩
    exact List.mem_map.mpr ⟨l, hl, if_neg fun hold => absurd hold.2 (by omega)⟩

theorem LeaseTable.Exclusive.sweep {t : LeaseTable} {now : Nat} (h : t.Exclusive now)
    (swept : Nat) : (dhcpSweepExpired t swept).Exclusive now := by
  have hslot : ∀ l : DhcpLease,
      (if l.used ∧ l.expires ≤ swept then DhcpLease.zero else l) = DhcpLease.zero ∨
        (if l.used ∧ l.expires ≤ swept then DhcpLease.zero else l) = l := by
    intro l
    split
    · exact Or.inl rfl
    · exact Or.inr rfl
  refine List.pairwise_map.mpr (h.imp fun {a b} hab => ?_)
  rcases hslot a with ha | ha
  · rw [ha]
    exact compatible_zero _ _
  · rcases hslot b with hb | hb
    · rw [hb]
      exact Std.Symm.symm _ _ (compatible_zero _ _)
    · rw [ha, hb]
      exact hab

theorem LeaseTable.Permitted.sweep {c : Config} {t : LeaseTable} (h : t.Permitted c)
    (swept : Nat) : (dhcpSweepExpired t swept).Permitted c := by
  intro l hl hused
  exact h l ((mem_dhcpSweepExpired hused).mp hl).1 hused

/-! ## Replacing a slot -/

theorem LeaseTable.replace_some {t t' : LeaseTable} {p : DhcpLease → Bool} {x : DhcpLease}
    (h : t.replace p x = some t') : replaceFirst p x t.slots = some t'.slots := by
  unfold LeaseTable.replace at h
  split at h
  · rename_i slots hslots
    injection h with h
    rw [hslots, ← h]
  · simp at h

theorem LeaseTable.replace_none {t : LeaseTable} {p : DhcpLease → Bool} {x : DhcpLease} :
    t.replace p x = none ↔ ∀ l ∈ t.slots, p l = false := by
  refine Iff.trans ?_ (replaceFirst_none (x := x))
  unfold LeaseTable.replace
  split
  · rename_i slots hslots
    simp [hslots]
  · rename_i hnone
    simp [hnone]

/-- The slot a claim overwrites: the client's, or a free one if it has none. -/
theorem LeaseTable.claim_some {t t' : LeaseTable} {x : DhcpLease} (h : t.claim x = some t') :
    replaceFirst (·.ownedBy x.mac) x t.slots = some t'.slots ∨
      (∀ l ∈ t.slots, l.ownedBy x.mac = false) ∧
        replaceFirst (fun slot => !slot.used) x t.slots = some t'.slots := by
  unfold LeaseTable.claim at h
  cases hown : t.replace (·.ownedBy x.mac) x with
  | some t₁ =>
    rw [hown, Option.some_or, Option.some.injEq] at h
    subst h
    exact Or.inl (replace_some hown)
  | none =>
    rw [hown, Option.none_or] at h
    exact Or.inr ⟨replace_none.mp hown, replace_some h⟩

theorem LeaseTable.claim_none {t : LeaseTable} {x : DhcpLease} :
    t.claim x = none ↔ (∀ l ∈ t.slots, l.ownedBy x.mac = false) ∧ ∀ l ∈ t.slots, l.used = true := by
  unfold LeaseTable.claim
  rw [Option.or_eq_none_iff, replace_none, replace_none]
  simp

/-- No other client is bound to the address. -/
def LeaseTable.FreeFor (t : LeaseTable) (now : Nat) (mac : Mac) (ip : Ip4) : Prop :=
  ∀ l ∈ t.slots, l.live now → l.mac ≠ mac → l.ip ≠ ip

theorem LeaseTable.FreeFor.mono {t : LeaseTable} {now later : Nat} {mac : Mac} {ip : Ip4}
    (h : t.FreeFor now mac ip) (hle : now ≤ later) : t.FreeFor later mac ip :=
  fun l hl hlive => h l hl (DhcpLease.live_mono hle hlive)

/-- A claim for an address that is free for the client keeps the slots apart. -/
theorem LeaseTable.Exclusive.claim {now : Nat} {t t' : LeaseTable} {x : DhcpLease}
    (h : t.Exclusive now) (free : t.FreeFor now x.mac x.ip) (hclaim : t.claim x = some t') :
    t'.Exclusive now := by
  -- a slot that competes with the client's for nothing does not compete with the claim
  have htake : ∀ b ∈ t.slots, (b.used → b.mac ≠ x.mac) → Compatible now x b := by
    intro b hb hother
    refine ⟨fun _ hbused => (hother hbused).symm, fun _ hlive => ?_⟩
    exact (free b hb hlive (hother ((b.live_iff now).mp hlive).1)).symm
  rcases LeaseTable.claim_some hclaim with hown | ⟨hnone, hfree⟩
  · refine pairwise_replaceFirst hown h ?_
    intro a b ha hb hab
    obtain ⟨haused, hamac⟩ := (a.ownedBy_iff x.mac).mp ha
    exact htake b hb fun hbused => hamac ▸ (hab.mac haused hbused).symm
  · refine pairwise_replaceFirst hfree h ?_
    intro a b _ hb _
    refine htake b hb fun hbused hbmac => ?_
    have hno := hnone b hb
    rw [(b.ownedBy_iff x.mac).mpr ⟨hbused, hbmac⟩] at hno
    cases hno

/-- A slot after a claim is the claim or was there before. -/
theorem LeaseTable.mem_claim {t t' : LeaseTable} {x l : DhcpLease} (hclaim : t.claim x = some t')
    (hl : l ∈ t'.slots) : l = x ∨ l ∈ t.slots := by
  rcases LeaseTable.claim_some hclaim with hown | ⟨-, hfree⟩
  · exact mem_replaceFirst hown hl
  · exact mem_replaceFirst hfree hl

/-- A claim is in the table. -/
theorem LeaseTable.claimed {t t' : LeaseTable} {x : DhcpLease} (hclaim : t.claim x = some t') :
    x ∈ t'.slots := by
  rcases LeaseTable.claim_some hclaim with hown | ⟨-, hfree⟩
  · exact mem_of_replaceFirst hown
  · exact mem_of_replaceFirst hfree

theorem LeaseTable.Permitted.claim {c : Config} {t t' : LeaseTable} {x : DhcpLease}
    (h : t.Permitted c) (hmac : isNintendoMac x.mac) (hip : LeaseAddress c x.ip)
    (hclaim : t.claim x = some t') : t'.Permitted c := by
  intro l hl hused
  rcases LeaseTable.mem_claim hclaim hl with rfl | hold
  · exact ⟨hmac, hip⟩
  · exact h l hold hused

/-! ## Releasing -/

/-- The table after a RELEASE. -/
def LeaseTable.release (t : LeaseTable) (mac : Mac) : LeaseTable :=
  (t.replace (·.ownedBy mac) DhcpLease.zero).getD t

theorem LeaseTable.Exclusive.release {now : Nat} {t : LeaseTable} (h : t.Exclusive now)
    (mac : Mac) : (t.release mac).Exclusive now := by
  unfold LeaseTable.release
  cases hreplace : t.replace (·.ownedBy mac) DhcpLease.zero with
  | none => exact h
  | some t' =>
    exact pairwise_replaceFirst (LeaseTable.replace_some hreplace) h
      fun a b _ _ _ => compatible_zero now b

theorem LeaseTable.Permitted.release {c : Config} {t : LeaseTable} (h : t.Permitted c)
    (mac : Mac) : (t.release mac).Permitted c := by
  unfold LeaseTable.release
  cases hreplace : t.replace (·.ownedBy mac) DhcpLease.zero with
  | none => exact h
  | some t' =>
    intro l hl hused
    rcases mem_replaceFirst (LeaseTable.replace_some hreplace) hl with rfl | hold
    · exact absurd hused (by decide)
    · exact h l hold hused

/-! ## Other clients' slots -/

/-- A claim leaves the slots of other clients. -/
theorem LeaseTable.claim_keeps {t t' : LeaseTable} {x l : DhcpLease}
    (hclaim : t.claim x = some t') (hl : l ∈ t.slots) (hused : l.used) (hmac : l.mac ≠ x.mac) :
    l ∈ t'.slots := by
  rcases LeaseTable.claim_some hclaim with hown | ⟨-, hfree⟩
  · refine mem_replaceFirst_of_not hown hl ?_
    simp [DhcpLease.ownedBy, hmac]
  · refine mem_replaceFirst_of_not hfree hl ?_
    simp [hused]

theorem LeaseTable.release_keeps {t : LeaseTable} {l : DhcpLease} {mac : Mac} (hl : l ∈ t.slots)
    (hmac : l.mac ≠ mac) : l ∈ (t.release mac).slots := by
  unfold LeaseTable.release
  cases hreplace : t.replace (·.ownedBy mac) DhcpLease.zero with
  | none => exact hl
  | some t' =>
    refine mem_replaceFirst_of_not (LeaseTable.replace_some hreplace) hl ?_
    simp [DhcpLease.ownedBy, hmac]

end Grid0Relay
