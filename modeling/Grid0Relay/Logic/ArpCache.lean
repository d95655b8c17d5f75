import Grid0Relay.Lib.Expiry
import Grid0Relay.Logic.Senders

/-!
# The ARP cache as a map with expiry

`arp_set` and the two lookups are the slot cache of `Lib.Expiry` with the empty address
as the blank key. `Remembers` relates a cache to the successful calls of `arp_set`, newest
first.
-/

namespace Grid0Relay

open Lib Lib.Exec Lib.Slots

/-- A call of `arp_set` that returned true. -/
structure Sighting where
  ip : Ip4
  mac : Mac
  time : Nat
deriving DecidableEq, Repr

/-- The latest one for an address. -/
def latest (seen : List Sighting) (ip : Ip4) : Option Sighting := seen.find? (·.ip == ip)

/-- What it put into the cache. -/
def Sighting.item (ttl : Nat) (s : Sighting) : ArpItem := ⟨s.ip, s.mac, s.time + ttl⟩

/-- The cache, last written at `now` or before, holds what was stored last. -/
def ArpTable.Remembers (t : ArpTable) (ttl : Nat) (seen : List Sighting) (now : Nat) : Prop :=
  Expiry.Tracks ArpItem.ip ArpItem.expireAt noneIp ttl
    (fun ip => (latest seen ip).map (Sighting.item ttl)) now t.items

namespace ArpTable

variable {t t' : ArpTable} {ttl now : Nat} {seen : List Sighting}

theorem remembers_init (ttl now : Nat) : ArpTable.init.Remembers ttl [] now :=
  Expiry.Tracks.init fun _ ha => congrArg ArpItem.ip (List.eq_of_mem_replicate ha)

theorem Remembers.mono (h : t.Remembers ttl seen now) {later : Nat} (hle : now ≤ later) :
    t.Remembers ttl seen later := Expiry.Tracks.mono h hle

theorem set_some {mac : Mac} {ip : Ip4} (h : t.set mac ip now ttl = some t') :
    replaceFirst (reusable ip now) ⟨ip, mac, now + ttl⟩ t.items = some t'.items := by
  unfold set at h
  split at h
  · rename_i items hitems
    rw [hitems]
    exact congrArg (some ∘ ArpTable.items) (Option.some.inj h)
  · cases h

theorem set_none {mac : Mac} {ip : Ip4} (h : t.set mac ip now ttl = none) :
    ∀ item ∈ t.items, reusable ip now item = false := by
  unfold set at h
  split at h
  · cases h
  · exact replaceFirst_none.mp ‹_›

/-- A successful call is remembered. -/
theorem Remembers.set (h : t.Remembers ttl seen now) {later : Nat} (hle : now ≤ later) {mac : Mac}
    {ip : Ip4} (hset : t.set mac ip later ttl = some t') :
    t'.Remembers ttl (⟨ip, mac, later⟩ :: seen) later := by
  have hstored := Expiry.Tracks.store h (a := ⟨ip, mac, later + ttl⟩) hle rfl (set_some hset)
  have hmap : (fun k => (latest (⟨ip, mac, later⟩ :: seen) k).map (Sighting.item ttl)) =
      Expiry.LastStored.store ArpItem.ip (fun k => (latest seen k).map (Sighting.item ttl))
        ⟨ip, mac, later + ttl⟩ := by
    funext k
    by_cases hk : ip = k
    · simp [Expiry.LastStored.store, latest, Sighting.item, hk]
    · simp [Expiry.LastStored.store, latest, hk]
  rw [Remembers, hmap]
  exact hstored

/-- A lookup finds the latest sighting while it lasts. -/
theorem Remembers.lookup (h : t.Remembers ttl seen now) {ip : Ip4} (hip : ip ≠ noneIp) {time : Nat}
    (hle : now ≤ time) : t.lookup ip time =
      ((latest seen ip).filter fun s => decide (time < s.time + ttl)).map (Sighting.item ttl) := by
  have hfind := Expiry.Tracks.lookup h hip hle
  refine Eq.trans hfind ?_
  cases latest seen ip with
  | none => rfl
  | some s =>
    by_cases hlive : time < s.time + ttl
    · simp [Option.filter, Sighting.item, hlive]
    · simp [Option.filter, Sighting.item, hlive]

end ArpTable

end Grid0Relay
