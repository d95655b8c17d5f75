import Grid0Relay.Lib.Stream
import Grid0Relay.Logic.Forwarder
import Mathlib.Data.List.Induction

/-!
# The state of the forwarding server over its runs

`Sound` holds in every state a server with an `AuthProvider` gets to: numbers that are
not in use are blank, the table has each peer under its own address, and every cached
route leads to a peer that has logged in.
-/

namespace Grid0Relay.Forwarder

open Lib Lib.Exec Lib.Stream

structure Sound (s : Server) : Prop where
  fresh : ∀ p, s.made ≤ p → (s.peers p).user = none ∧ (s.peers p).challenge = none
  calm : ∀ p, s.made ≤ p → s.filling p = false
  known : ∀ key item, (key, item) ∈ s.manager.entries →
    item.peer < s.made ∧ addr2str (s.peers item.peer).rinfo = key
  cached : ∀ ip item, (ip, item) ∈ s.ipCache.entries →
    item.peer < s.made ∧ (s.peers item.peer).user.isSome = true
  pending : ∀ id login, s.logins id = some login → id < s.begun ∧ login.peer < s.made

theorem Sound.start : Sound .start where
  fresh := fun _ _ => ⟨rfl, rfl⟩
  calm := fun _ _ => rfl
  known := fun _ _ h => by cases h
  cached := fun _ _ h => by cases h
  pending := fun _ _ h => by cases h

section Sound

variable {s : Server}

theorem Sound.current_lt (h : Sound s) {rinfo : AddressInfo} {item : CacheItem}
    (hcurrent : s.current rinfo = some item) :
    item.peer < s.made ∧ addr2str (s.peers item.peer).rinfo = addr2str rinfo :=
  h.known _ item (OrderedMap.get?_eq_some.mp hcurrent)

theorem Sound.touched (h : Sound s) (now : Nat) (rinfo : AddressInfo) :
    Sound (s.touched now rinfo) := by
  unfold Server.touched
  cases hcurrent : s.current rinfo with
  | none =>
    have hold : ∀ p, p < s.made →
        Function.update s.peers s.made ⟨rinfo, none, none⟩ p = s.peers p := by
      intro p hp
      rw [Function.update_of_ne (by omega)]
    refine ⟨fun p hp => ?_, fun p hp => ?_, fun key item hmem => ?_, fun ip item hmem => ?_,
      fun id login hlogin => ?_⟩ <;> dsimp only at *
    · rw [Function.update_of_ne (by omega)]
      exact h.fresh p (by omega)
    · exact h.calm p (by omega)
    · rcases OrderedMap.mem_set.mp hmem with ⟨rfl, rfl⟩ | ⟨-, hmem⟩
      · simp
      · obtain ⟨hlt, hkey⟩ := h.known key item hmem
        rw [hold _ hlt]
        exact ⟨by omega, hkey⟩
    · obtain ⟨hlt, huser⟩ := h.cached ip item hmem
      rw [hold _ hlt]
      exact ⟨by omega, huser⟩
    · obtain ⟨hid, hlt⟩ := h.pending id login hlogin
      exact ⟨hid, by omega⟩
  | some item =>
    refine { h with known := fun key entry hmem => ?_ }
    rcases OrderedMap.mem_set.mp hmem with ⟨rfl, rfl⟩ | ⟨-, hmem⟩
    · obtain ⟨hlt, hkey⟩ := h.current_lt hcurrent
      exact ⟨hlt, hkey⟩
    · exact h.known key entry hmem

/-- A peer that `manager.get` makes is as blank as its number was. -/
theorem touched_same (h : Sound s) (now : Nat) (rinfo : AddressInfo) (p : Nat) :
    ((s.touched now rinfo).peers p).user = (s.peers p).user ∧
      ((s.touched now rinfo).peers p).challenge = (s.peers p).challenge := by
  unfold Server.touched
  cases s.current rinfo with
  | none =>
    by_cases hp : p = s.made
    · obtain ⟨huser, hchallenge⟩ := h.fresh p (by omega)
      rw [huser, hchallenge]
      simp [hp]
    · simp [hp]
  | some item => exact ⟨rfl, rfl⟩

theorem Sound.peerFor_lt (h : Sound s) (now : Nat) (rinfo : AddressInfo) :
    s.peerFor rinfo < (s.touched now rinfo).made := by
  unfold Server.peerFor Server.touched
  cases hcurrent : s.current rinfo with
  | none => simp
  | some item => exact (h.current_lt hcurrent).1

/-- A change of one peer that leaves its address and does not log it out. -/
theorem Sound.setPeer (h : Sound s) {p : Nat} (hp : p < s.made) {f : Peer → Peer}
    (hrinfo : ∀ q, (f q).rinfo = q.rinfo)
    (huser : ∀ q, q.user.isSome = true → (f q).user.isSome = true) : Sound (s.setPeer p f) := by
  refine { h with
    fresh := fun q hq => ?_
    known := fun key item hmem => ?_
    cached := fun ip item hmem => ?_ }
  · have hge : s.made ≤ q := hq
    rw [setPeer_of_ne s (by omega)]
    exact h.fresh q hge
  · obtain ⟨hlt, hkey⟩ := h.known key item hmem
    refine ⟨hlt, ?_⟩
    rw [setPeer_same s p hrinfo]
    exact hkey
  · obtain ⟨hlt, hsome⟩ := h.cached ip item hmem
    refine ⟨hlt, ?_⟩
    by_cases heq : item.peer = p
    · rw [heq, setPeer_self]
      exact huser _ (heq ▸ hsome)
    · rw [setPeer_of_ne s heq]
      exact hsome

theorem Sound.setChallenge (h : Sound s) {p : Nat} (hp : p < s.made)
    (f : Option Challenge → Option Challenge) : Sound (s.setChallenge p f) :=
  h.setPeer hp (fun _ => rfl) fun _ hq => hq

theorem Sound.filling (h : Sound s) {p : Nat} (hp : p < s.made) (b : Bool) :
    Sound { s with filling := Function.update s.filling p b } := by
  refine { h with calm := fun q hq => ?_ }
  have hge : s.made ≤ q := hq
  change Function.update s.filling p b q = false
  rw [Function.update_of_ne (by omega)]
  exact h.calm q hge

theorem Sound.settled (h : Sound s) (id : Nat) : Sound (s.settled id) :=
  { h with pending := fun j login hlogin => h.pending j login (settled_logins hlogin).2 }

theorem Sound.routed (h : Sound s) (layout : Layout) (later : Nat) {p : Nat} (hp : p < s.made)
    (huser : (s.peers p).user.isSome = true) (payload : Bytes) :
    Sound (s.routed layout later p payload) := by
  refine { h with cached := fun ip item hmem => ?_ }
  rcases OrderedMap.mem_set.mp hmem with ⟨-, rfl⟩ | ⟨-, hmem⟩
  · exact ⟨hp, huser⟩
  · exact h.cached ip item hmem

end Sound

theorem turn_sound {host : Host} (hauth : host.authProvider = true) {s s' : Server} {event : Event}
    {env : Env} {acts : List Action} (h : Sound s) (hturn : Turn host s event env s' acts) :
    Sound s' := by
  have htouched : ∀ rinfo, Sound (s.touched env.now rinfo) := fun rinfo => h.touched env.now rinfo
  have hlt : ∀ rinfo, s.peerFor rinfo < (s.touched env.now rinfo).made :=
    fun rinfo => h.peerFor_lt env.now rinfo
  have hfilling : ∀ p, s.filling p = true → p < s.made := by
    intro p hp
    by_contra hge
    rw [h.calm p (by omega)] at hp
    cases hp
  cases hturn with
  | idle _ _ => exact h
  | kept _ | ignored _ _ _ => exact htouched _
  | routed layout acts hlog _ _ _ _ =>
    refine (htouched _).routed layout env.later (hlt _) ?_ _
    rw [touched_user]
    exact hlog hauth
  | @begun msg rinfo env challenge _ _ _ _ _ =>
    refine { htouched rinfo with pending := fun id login hlogin => ?_ }
    change Function.update s.logins s.begun _ id = some login at hlogin
    by_cases hid : id = s.begun
    · rw [hid, Function.update_self, Option.some.injEq] at hlogin
      rw [hid, ← hlogin]
      exact ⟨Nat.lt_succ_self _, hlt rinfo⟩
    · rw [Function.update_of_ne hid, ← touched_logins s env.now rinfo] at hlogin
      obtain ⟨hold, hpeer⟩ := (htouched rinfo).pending id login hlogin
      rw [touched_begun] at hold
      exact ⟨Nat.lt_succ_of_lt hold, hpeer⟩
  | @published msg rinfo _ _ _ _ =>
    have hset := (htouched rinfo).setChallenge (hlt rinfo) fun _ => some blankChallenge
    have hfill := hset.filling (hlt rinfo) true
    have hsame : ((s.touched env.now rinfo).setChallenge (s.peerFor rinfo)
        fun _ => some blankChallenge).filling = s.filling := touched_filling s env.now rinfo
    rw [hsame] at hfill
    exact hfill
  | admitted sha1 login hlogin _ =>
    exact (h.settled _).setPeer (h.pending _ login hlogin).2 (fun _ => rfl) fun _ _ => rfl
  | dismissed id login _ _ _ => exact h.settled id
  | scribbled hfill => exact h.setChallenge (hfilling _ hfill) _
  | filled hfill _ _ => exact (h.filling (hfilling _ hfill) false).setChallenge (hfilling _ hfill) _
  | fillFailed hfill => exact h.filling (hfilling _ hfill) false
  | sendFailed =>
    exact { h with known := fun key item hmem => h.known key item (OrderedMap.mem_filter.mp hmem).1 }
  | interval =>
    exact { h with
      known := fun key item hmem => h.known key item (OrderedMap.mem_filter.mp hmem).1
      cached := fun ip item hmem => h.cached ip item (OrderedMap.mem_filter.mp hmem).1 }

/-- The state after these inputs. -/
def serve (host : Host) (inputs : List Input) : Server := (Stream.run (step host) .start inputs).1

theorem serve_concat (host : Host) (past : List Input) (input : Input) :
    serve host (past ++ [input]) = (step host (serve host past) input).1 := by
  rw [serve, run_append]
  rfl

theorem serve_sound {host : Host} (hauth : host.authProvider = true) (inputs : List Input) :
    Sound (serve host inputs) := by
  induction inputs using List.reverseRecOn with
  | nil => exact Sound.start
  | append_singleton past input ih =>
    rw [serve_concat]
    exact turn_sound hauth ih (step_turn host _ input)

/-! ## A login -/

/-- A server whose digest is the start of what it is taken of. -/
def plainHost : Host where
  authProvider := true
  sha1 := fun b => (b ++ List.replicate 20 0).take 20
  decode := fun b => String.ofList (b.map fun c => Char.ofNat c.toNat)

def calmEnv : Env := ⟨0, 0, fun _ => none⟩

def alice : AddressInfo := ⟨"::a", 11451⟩

def bob : AddressInfo := ⟨"::b", 11451⟩

def datagram (rinfo : AddressInfo) (msg : Bytes) : Input := ⟨.message msg rinfo, calmEnv⟩

/-- The first peer gets its challenge and answers it, and its password is looked up. -/
def loginOf (rinfo : AddressInfo) : List Input :=
  [datagram rinfo [0], ⟨.filled 0 (Vector.replicate 64 9), calmEnv⟩,
    datagram rinfo (4 :: List.replicate 20 9 ++ [97]), ⟨.lookedUp 0 (.ok []), calmEnv⟩]

/-- A packet from 5.5.5.5 to 5.5.5.`last`. -/
def packetTo (last content : UInt8) : Bytes := 1 :: List.replicate 19 5 ++ [last, content]

end Grid0Relay.Forwarder
