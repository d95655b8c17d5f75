import Grid0Relay.Logic.ForwarderRuns
import Grid0Relay.Logic.LanClient

/-!
# Fragments at the forwarding server

`onIpv4Frag` drops what has no more than twenty bytes, the length of an IPv4 header. The header of
a fragment has sixteen, so a last fragment of up to four bytes never gets through.
-/

namespace Grid0Relay.Forwarder

open Lib Lib.Exec

variable {host : Host} {s : Server} {env : Env} {rinfo : AddressInfo}

theorem sendTo_calm (hcalm : ∀ addr, env.throws addr = none) (p : Nat) (type : ForwarderType)
    (payload : Bytes) (w : World) :
    sendTo env p type payload w = .ok () ⟨w.server,
      w.actions ++ [.send (w.server.peers p).rinfo (type.code :: payload)]⟩ := by
  unfold sendTo sendToRaw
  rw [bind_ok (getServer_apply w), hcalm]
  rfl

theorem sendEach_calm (hcalm : ∀ addr, env.throws addr = none) (type : ForwarderType)
    (payload : Bytes) (ps : List Nat) (w : World) :
    sendEach env type payload ps w =
      .ok () ⟨w.server, w.actions ++
        ps.map fun p => .send (w.server.peers p).rinfo (type.code :: payload)⟩ := by
  induction ps generalizing w with
  | nil =>
    rw [List.map_nil, List.append_nil]
    rfl
  | cons p rest ih =>
    rw [sendEach, bind_ok (sendTo_calm hcalm p type payload w), ih, List.append_assoc]
    rfl

theorem route_calm (hcalm : ∀ addr, env.throws addr = none) (layout : Layout) (p : Nat)
    (payload : Bytes) (w : World) :
    route layout env p payload w =
      .ok () ⟨w.server, w.actions ++ (w.server.targets layout p payload).map fun q =>
        .send (w.server.peers q).rinfo (layout.type.code :: payload)⟩ := by
  unfold route Server.targets
  rw [bind_ok (getServer_apply w)]
  cases w.server.ipCache.get? (readInt32BE payload layout.dst) with
  | none => exact sendEach_calm hcalm _ _ _ w
  | some item => exact sendTo_calm hcalm _ _ _ w

/-- The server when `onIpv4Frag` routes a payload of this address. -/
def Server.routing (s : Server) (env : Env) (rinfo : AddressInfo) (payload : Bytes) : Server :=
  (s.touched env.now rinfo).routed ipv4FragLayout env.later (s.peerFor rinfo) payload

/-- What a fragment of an admitted peer brings about. -/
theorem step_fragment (hcalm : ∀ addr, env.throws addr = none)
    (hadmitted : host.authProvider = true → s.loggedIn rinfo = true) (payload : Bytes) :
    (step host s ⟨.message (ForwarderType.ipv4Frag.code :: payload) rinfo, env⟩).2 =
      .forward .ipv4Frag (s.peerFor rinfo) payload ::
        if payload.length ≤ 20 then []
        else ((s.routing env rinfo payload).targets ipv4FragLayout (s.peerFor rinfo) payload).map
          fun q => .send ((s.routing env rinfo payload).peers q).rinfo
            (ForwarderType.ipv4Frag.code :: payload) := by
  have hhead : (parseHead (ForwarderType.ipv4Frag.code :: payload)).type = some .ipv4Frag := by
    rw [parseHead, show Bytes.byte (ForwarderType.ipv4Frag.code :: payload) 0 = 3 from rfl]
    decide
  have hping : ¬ isPing (ForwarderType.ipv4Frag.code :: payload) := fun h => by
    rw [isPing, hhead] at h
    cases h.1
  have hauth : ¬ (host.authProvider && !s.loggedIn rinfo) = true := by
    cases hprovider : host.authProvider with
    | false => exact Bool.false_ne_true
    | true =>
      rw [hadmitted hprovider]
      exact Bool.false_ne_true
  simp only [step, handle]
  rw [onMessage_eq, if_neg (by simp), if_neg hping, if_neg hauth, hhead, List.drop_succ_cons,
    List.drop_zero, onPacket, onIpv4Frag, onRouted, bind_ok (act_apply _ _)]
  by_cases hlen : payload.length ≤ 20
  · rw [if_pos hlen, if_pos hlen]
    rfl
  · rw [if_neg hlen, if_neg hlen, bind_ok (modifyServer_apply _ _), route_calm hcalm]
    rfl

end Grid0Relay.Forwarder

namespace Grid0Relay.LanClient

open Lib Lib.Exec

/-- From an admitted peer, every target gets the datagram with all its bytes. -/
def Forwarded (datagram : Bytes) : Prop :=
  ∀ (host : Forwarder.Host) (s : Forwarder.Server) (env : Forwarder.Env)
    (rinfo : Forwarder.AddressInfo), (∀ addr, env.throws addr = none) →
    (host.authProvider = true → s.loggedIn rinfo = true) →
    (Forwarder.step host s ⟨.message datagram rinfo, env⟩).2 =
      .forward .ipv4Frag (s.peerFor rinfo) (datagram.drop 1) ::
        ((s.routing env rinfo (datagram.drop 1)).targets Forwarder.ipv4FragLayout
          (s.peerFor rinfo) (datagram.drop 1)).map
          fun q => .send ((s.routing env rinfo (datagram.drop 1)).peers q).rinfo datagram

theorem forwarded_of_long {payload : Bytes} (h : 20 < payload.length) :
    Forwarded (ClientType.ipv4Frag.code :: payload) := by
  intro host s env rinfo hcalm hadmitted
  refine (Forwarder.step_fragment hcalm hadmitted payload).trans ?_
  rw [if_neg (Nat.not_le.mpr h)]
  rfl

/-- A server without logins that knows one address. -/
def openServer : Forwarder.Server :=
  Forwarder.Server.touched .start 0 Forwarder.bob

def openHost : Forwarder.Host := { Forwarder.plainHost with authProvider := false }

theorem targets_ne_nil (payload : Bytes) :
    (openServer.routing Forwarder.calmEnv Forwarder.alice payload).targets Forwarder.ipv4FragLayout
      (openServer.peerFor Forwarder.alice) payload ≠ [] := by
  unfold Forwarder.Server.targets
  split
  · exact List.cons_ne_nil _ _
  · -- whatever was learned, the one address is another one
    change (openServer.touched 0 Forwarder.alice).all
      ((openServer.touched 0 Forwarder.alice).peers 1).rinfo ≠ []
    decide

theorem not_forwarded_of_short {payload : Bytes} (h : payload.length ≤ 20) :
    ¬ Forwarded (ClientType.ipv4Frag.code :: payload) := by
  intro hforwarded
  have hall := hforwarded openHost openServer Forwarder.calmEnv Forwarder.alice (fun _ => rfl)
    fun h => by cases h
  have hnone := @Forwarder.step_fragment openHost openServer Forwarder.calmEnv Forwarder.alice
    (fun _ => rfl) (fun h => by cases h) payload
  rw [if_pos h] at hnone
  have htargets := (List.cons.inj (hall.symm.trans hnone)).2
  exact targets_ne_nil payload (List.map_eq_nil_iff.mp htargets)

/-- The fragments all have more than four bytes just when the last has. -/
theorem long_parts_iff {pmtu len : Nat} (hpmtu : 500 ≤ pmtu) :
    (∀ i, pmtu * i < len → 4 < min pmtu (len - pmtu * i)) ↔
      len % pmtu = 0 ∨ 4 < len % pmtu := by
  have hlast : len < pmtu * (len / pmtu + 1) := Nat.lt_mul_div_succ len (by omega)
  have hdiv := Nat.div_add_mod len pmtu
  constructor
  · intro h
    by_contra hshort
    have := h (len / pmtu) (by omega)
    omega
  · intro h i hi
    rcases Nat.lt_trichotomy i (len / pmtu) with hlt | rfl | hgt
    · have hfull : pmtu * (i + 1) ≤ pmtu * (len / pmtu) := Nat.mul_le_mul_left pmtu hlt
      rw [Nat.mul_succ] at hfull
      omega
    · omega
    · have hbehind : pmtu * (len / pmtu + 1) ≤ pmtu * i := Nat.mul_le_mul_left pmtu hgt
      omega

theorem fragment_forwarded_iff (id pmtu : Nat) (packet : Bytes) (i : Nat) :
    Forwarded (fragment id pmtu packet i) ↔ 4 < partLen pmtu packet i := by
  have hlength := length_partPayload id pmtu packet i
  rw [fragHeaderLen] at hlength
  rw [fragment_eq]
  constructor
  · intro h
    by_contra hshort
    exact not_forwarded_of_short (by omega) h
  · intro h
    exact forwarded_of_long (by omega)

/-- **Fragments at the server.** Every fragment of a packet is passed on unchanged just when no
last fragment has four bytes or less. -/
theorem fragments_forwarded_iff (c : Client) (packet : Bytes) (hpmtu : 500 ≤ c.pmtu) :
    (∀ (env : Env) (ret : Int) (c' : Client), lanClientSend env .ipv4 packet c = .ok ret c' →
      ∀ d ∈ newlySent c c', d.byte 0 = ClientType.ipv4Frag.code → Forwarded d) ↔
      packet.length ≤ c.pmtu ∨ packet.length % c.pmtu = 0 ∨ 4 < packet.length % c.pmtu := by
  have hpos : 0 < c.pmtu := by omega
  by_cases hshort : packet.length ≤ c.pmtu
  · -- one datagram, which is no fragment
    refine iff_of_true (fun env ret c' hsend d hd htype => ?_) (Or.inl hshort)
    rw [lanClientSend_one fun _ => hshort] at hsend
    injection hsend with _ hsend
    subst hsend
    have hwhole : d = ClientType.ipv4.code :: packet := by
      unfold newlySent Client.upload at hd
      split at hd
      · simpa using hd
      · simp at hd
    subst hwhole
    exact absurd htype (by decide : (1 : UInt8) ≠ 3)
  have hlong : c.pmtu < packet.length := by omega
  rw [or_iff_right hshort, ← long_parts_iff hpmtu]
  constructor
  · intro h i hi
    obtain ⟨n, ret, c', hsend, hsent, -, hall⟩ :=
      @lanClientSend_fragments ⟨fun _ => 0, id⟩ packet c hpos hlong
    obtain rfl := hall fun _ => rfl
    refine (fragment_forwarded_iff c.nextId c.pmtu packet i).mp (h _ ret c' hsend _ ?_ ?_)
    · rw [newlySent, hsent, List.drop_left]
      exact List.mem_map.mpr ⟨i, List.mem_range.mpr ((lt_totalParts_iff hpos).mpr hi), rfl⟩
    · rw [fragment_eq]
      rfl
  · intro h env ret c' hsend d hd _
    obtain ⟨n, ret', c'', hsend', hsent, hle, -⟩ := @lanClientSend_fragments env packet c hpos hlong
    obtain ⟨rfl, rfl⟩ : ret' = ret ∧ c'' = c' := by
      rw [hsend'] at hsend
      injection hsend with hret hclient
      exact ⟨hret, hclient⟩
    rw [newlySent, hsent, List.drop_left] at hd
    obtain ⟨i, hi, rfl⟩ := List.mem_map.mp hd
    have hpart := (lt_totalParts_iff hpos).mp
      (Nat.lt_of_lt_of_le (List.mem_range.mp hi) hle)
    exact (fragment_forwarded_iff c.nextId c.pmtu packet i).mpr (h i hpart)

/-- A client with the least path MTU `lan_client_init` takes. -/
def narrowClient : Client := { freshClient with pmtu := 500 }

theorem fragments_forwarded_iff_narrow :
    500 ≤ narrowClient.pmtu ∧ ∀ (env : Env) (ret : Int) (c' : Client),
      lanClientSend env .ipv4 (List.replicate 505 0) narrowClient = .ok ret c' →
      ∀ d ∈ newlySent narrowClient c', d.byte 0 = ClientType.ipv4Frag.code → Forwarded d := by
  have hpmtu : 500 ≤ narrowClient.pmtu := Nat.le_refl 500
  refine ⟨hpmtu, (fragments_forwarded_iff narrowClient (List.replicate 505 0) hpmtu).mpr ?_⟩
  rw [List.length_replicate]
  decide

/-- Of a packet with two bytes more than fit, the server drops the second fragment. -/
theorem short_fragment_dropped :
    ∃ ret c', lanClientSend calmEnv .ipv4 (List.replicate 502 0) narrowClient = .ok ret c' ∧
      ∃ d ∈ newlySent narrowClient c', d.byte 0 = ClientType.ipv4Frag.code ∧ ¬ Forwarded d := by
  have hlength : (List.replicate 502 (0 : UInt8)).length = 502 := List.length_replicate
  have htotal : totalParts 500 (List.replicate 502 (0 : UInt8)).length = 2 := by
    rw [hlength]
    decide
  obtain ⟨n, ret, c', hsend, hsent, -, hall⟩ :=
    @lanClientSend_fragments calmEnv (List.replicate 502 0) narrowClient (by decide)
      (by rw [hlength]; decide)
  obtain rfl : n = 2 := (hall fun _ => rfl).trans htotal
  refine ⟨ret, c', hsend, fragment 0 500 (List.replicate 502 0) 1, ?_, ?_, ?_⟩
  · rw [newlySent, hsent, List.drop_left]
    exact List.mem_map.mpr ⟨1, List.mem_range.mpr (by decide), rfl⟩
  · rw [fragment_eq]
    rfl
  · rw [fragment_forwarded_iff, partLen, hlength]
    decide

end Grid0Relay.LanClient
