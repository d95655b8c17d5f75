import Grid0Relay.Forwarder.Server

/-!
# What one turn of the forwarding server can do

`Turn` lists the outcomes of a turn, each with the guards the source has in front of
it. The invariants over runs are read off it.
-/

namespace Grid0Relay.Forwarder

open Lib Lib.Exec

@[simp] theorem getServer_apply (w : World) : getServer w = .ok w.server w := rfl

@[simp] theorem modifyServer_apply (f : Server → Server) (w : World) :
    modifyServer f w = .ok () { w with server := f w.server } := rfl

@[simp] theorem act_apply (a : Action) (w : World) :
    act a w = .ok () { w with actions := w.actions ++ [a] } := rfl

@[simp] theorem modifyPeer_apply (p : Nat) (f : Peer → Peer) (w : World) :
    modifyPeer p f w = .ok () { w with server := { w.server with
      peers := Function.update w.server.peers p (f (w.server.peers p)) } } := rfl

/-! ## What is sent -/

/-- The server stays, and every action added satisfies `P`. -/
structure Adds (P : Server → Action → Prop) (w w' : World) : Prop where
  server : w'.server = w.server
  actions : ∃ added, w'.actions = w.actions ++ added ∧ ∀ a ∈ added, P w.server a

section Adds

variable {P Q : Server → Action → Prop}

instance : Std.Refl (Adds P) := ⟨fun _ => ⟨rfl, [], by simp, by simp⟩⟩

instance : IsTrans World (Adds P) where
  trans w₁ w₂ w₃ h₁ h₂ := by
    obtain ⟨added₁, heq₁, hall₁⟩ := h₁.actions
    obtain ⟨added₂, heq₂, hall₂⟩ := h₂.actions
    refine ⟨h₂.server.trans h₁.server, added₁ ++ added₂, by rw [heq₂, heq₁, List.append_assoc], ?_⟩
    intro a ha
    rcases List.mem_append.mp ha with ha | ha
    · exact hall₁ a ha
    · exact h₁.server ▸ hall₂ a ha

theorem Adds.mono {w w' : World} (h : Adds P w w') (hle : ∀ a, P w.server a → Q w.server a) :
    Adds Q w w' := by
  obtain ⟨added, heq, hall⟩ := h.actions
  exact ⟨h.server, added, heq, fun a ha => hle a (hall a ha)⟩

end Adds

/-- To which peers a datagram goes. -/
def ToPeers (ps : List Nat) (type : ForwarderType) (payload : Bytes) (s : Server) (a : Action) :
    Prop :=
  ∃ p ∈ ps, a = .send (s.peers p).rinfo (type.code :: payload)

theorem sendToRaw_adds (env : Env) (addr : AddressInfo) (msg : Bytes) :
    Steps (Adds fun _ a => a = .send addr msg) (sendToRaw env addr msg) := by
  intro w
  unfold sendToRaw
  cases env.throws addr with
  | some message => exact refl w
  | none => exact ⟨rfl, [.send addr msg], rfl, by simp⟩

theorem sendTo_adds (env : Env) (p : Nat) (type : ForwarderType) (payload : Bytes) :
    Steps (Adds (ToPeers [p] type payload)) (sendTo env p type payload) := by
  intro w
  have hraw := sendToRaw_adds env (w.server.peers p).rinfo (type.code :: payload) w
  exact hraw.mono fun a ha => ⟨p, List.mem_singleton.mpr rfl, ha⟩

theorem sendEach_adds (env : Env) (type : ForwarderType) (payload : Bytes) (ps : List Nat) :
    Steps (Adds (ToPeers ps type payload)) (sendEach env type payload ps) := by
  induction ps with
  | nil => exact steps_pure ()
  | cons p rest ih =>
    unfold sendEach
    refine steps_bind (fun w => ?_) fun _ w => ?_
    · exact (sendTo_adds env p type payload w).mono fun a ⟨q, hq, ha⟩ =>
        ⟨q, List.mem_cons.mpr (Or.inl (List.mem_singleton.mp hq)), ha⟩
    · exact (ih w).mono fun a ⟨q, hq, ha⟩ => ⟨q, List.mem_cons_of_mem _ hq, ha⟩

/-- A datagram of type `Ipv4` or `Ipv4Frag`. -/
def isRouted (msg : Bytes) : Bool := msg.head? = some 1 || msg.head? = some 3

/-- Neither forwarded nor a forwarded datagram. -/
def Control (_ : Server) : Action → Prop
  | .forward _ _ _ => False
  | .send _ msg => isRouted msg = false

theorem sendTo_control (env : Env) (p : Nat) {type : ForwarderType}
    (htype : isRouted [type.code] = false) (payload : Bytes) :
    Steps (Adds Control) (sendTo env p type payload) := by
  intro w
  refine (sendTo_adds env p type payload w).mono ?_
  rintro a ⟨q, -, rfl⟩
  exact htype

theorem sendInfo_control (env : Env) (p : Nat) (info : String) :
    Steps (Adds Control) (sendInfo env p info) := sendTo_control env p rfl _

/-! ## The peer of an address -/

/-- The entry of an address. -/
def Server.current (s : Server) (rinfo : AddressInfo) : Option CacheItem :=
  s.manager.get? (addr2str rinfo)

/-- The peer `manager.get` returns. -/
def Server.peerFor (s : Server) (rinfo : AddressInfo) : Nat :=
  match s.current rinfo with
  | none => s.made
  | some item => item.peer

/-- The server behind `manager.get`. -/
def Server.touched (s : Server) (now : Nat) (rinfo : AddressInfo) : Server :=
  match s.current rinfo with
  | none =>
    { s with
      peers := Function.update s.peers s.made ⟨rinfo, none, none⟩
      made := s.made + 1
      manager := s.manager.set (addr2str rinfo) ⟨now + timeout, s.made⟩ }
  | some item =>
    { s with manager := s.manager.set (addr2str rinfo) { item with expireAt := now + timeout } }

section Touched

variable (s : Server) (now : Nat) (rinfo : AddressInfo)

@[simp] theorem touched_logins : (s.touched now rinfo).logins = s.logins := by
  unfold Server.touched
  cases s.current rinfo <;> rfl

@[simp] theorem touched_begun : (s.touched now rinfo).begun = s.begun := by
  unfold Server.touched
  cases s.current rinfo <;> rfl

@[simp] theorem touched_filling : (s.touched now rinfo).filling = s.filling := by
  unfold Server.touched
  cases s.current rinfo <;> rfl

@[simp] theorem touched_ipCache : (s.touched now rinfo).ipCache = s.ipCache := by
  unfold Server.touched
  cases s.current rinfo <;> rfl

end Touched

theorem managerGet_apply (env : Env) (rinfo : AddressInfo) (w : World) :
    managerGet env rinfo w =
      .ok (w.server.peerFor rinfo) { w with server := w.server.touched env.now rinfo } := by
  unfold managerGet Server.peerFor Server.touched Server.current
  rw [bind_ok (getServer_apply w)]
  cases w.server.manager.get? (addr2str rinfo) <;> rfl

/-- The address has logged in. -/
def Server.loggedIn (s : Server) (rinfo : AddressInfo) : Bool :=
  match s.current rinfo with
  | none => false
  | some item => (s.peers item.peer).user.isSome

theorem touched_user (s : Server) (now : Nat) (rinfo : AddressInfo) :
    ((s.touched now rinfo).peers (s.peerFor rinfo)).user.isSome = s.loggedIn rinfo := by
  unfold Server.touched Server.peerFor Server.loggedIn
  cases s.current rinfo with
  | none => simp
  | some item => rfl

/-- A ping, which gets no further than `onPing`. -/
def isPing (msg : Bytes) : Prop :=
  (parseHead msg).type = some .ping ∧ (parseHead msg).isEncrypted = false
deriving Decidable

theorem onMessage_eq (host : Host) (env : Env) (msg : Bytes) (rinfo : AddressInfo) (w : World) :
    onMessage host env msg rinfo w =
      if msg.length = 0 then .ok () w
      else if isPing msg then onPing env rinfo msg w
      else if (host.authProvider && !w.server.loggedIn rinfo) = true then
        onNeedAuth host env (w.server.peerFor rinfo) (parseHead msg).type (msg.drop 1)
          { w with server := w.server.touched env.now rinfo }
      else onPacket env (w.server.peerFor rinfo) (parseHead msg).type (msg.drop 1)
          { w with server := w.server.touched env.now rinfo } := by
  unfold onMessage
  rw [ite_run, ite_run]
  refine if_congr Iff.rfl rfl (if_congr Iff.rfl rfl ?_)
  rw [bind_ok (managerGet_apply env rinfo w), bind_ok (getServer_apply _), ite_run]
  dsimp only
  rw [← Option.not_isSome, touched_user]

/-! ## The outcomes of a turn -/

/-- A login that has come to its end. -/
def Server.settled (s : Server) (id : Nat) : Server :=
  { s with logins := Function.update s.logins id none }

theorem settled_logins {s : Server} {other id : Nat} {login : Login}
    (h : (s.settled other).logins id = some login) : id ≠ other ∧ s.logins id = some login := by
  change Function.update s.logins other none id = some login at h
  by_cases hid : id = other
  · rw [hid, Function.update_self] at h
    cases h
  · rw [Function.update_of_ne hid] at h
    exact ⟨hid, h⟩

def Server.setPeer (s : Server) (p : Nat) (f : Peer → Peer) : Server :=
  { s with peers := Function.update s.peers p (f (s.peers p)) }

@[simp] theorem setPeer_self (s : Server) (p : Nat) (f : Peer → Peer) :
    (s.setPeer p f).peers p = f (s.peers p) := Function.update_self _ _ _

theorem setPeer_of_ne (s : Server) {p q : Nat} (h : q ≠ p) (f : Peer → Peer) :
    (s.setPeer p f).peers q = s.peers q := Function.update_of_ne h _ _

/-- What `f` leaves of a peer. -/
theorem setPeer_same {β : Type} {g : Peer → β} (s : Server) (p : Nat) {f : Peer → Peer}
    (hf : ∀ x, g (f x) = g x) (q : Nat) : g ((s.setPeer p f).peers q) = g (s.peers q) := by
  by_cases hq : q = p
  · rw [hq, setPeer_self, hf]
  · rw [setPeer_of_ne s hq]

def Server.setUser (s : Server) (p : Nat) (user : User) : Server :=
  s.setPeer p fun q => { q with user := some user }

@[simp] theorem setUser_challenge (s : Server) (p q : Nat) (user : User) :
    ((s.setUser p user).peers q).challenge = (s.peers q).challenge :=
  setPeer_same (g := Peer.challenge) (f := fun q => { q with user := some user }) s p
    (fun _ => rfl) q

@[simp] theorem setUser_rinfo (s : Server) (p q : Nat) (user : User) :
    ((s.setUser p user).peers q).rinfo = (s.peers q).rinfo :=
  setPeer_same (g := Peer.rinfo) (f := fun q => { q with user := some user }) s p
    (fun _ => rfl) q

def Server.setChallenge (s : Server) (p : Nat) (f : Option Challenge → Option Challenge) :
    Server :=
  s.setPeer p fun q => { q with challenge := f q.challenge }

@[simp] theorem setChallenge_user (s : Server) (p q : Nat)
    (f : Option Challenge → Option Challenge) :
    ((s.setChallenge p f).peers q).user = (s.peers q).user :=
  setPeer_same (g := Peer.user) (f := fun q => { q with challenge := f q.challenge }) s p
    (fun _ => rfl) q

@[simp] theorem setChallenge_rinfo (s : Server) (p q : Nat)
    (f : Option Challenge → Option Challenge) :
    ((s.setChallenge p f).peers q).rinfo = (s.peers q).rinfo :=
  setPeer_same (g := Peer.rinfo) (f := fun q => { q with challenge := f q.challenge }) s p
    (fun _ => rfl) q

@[simp] theorem setChallenge_self (s : Server) (p : Nat)
    (f : Option Challenge → Option Challenge) :
    ((s.setChallenge p f).peers p).challenge = f (s.peers p).challenge := by
  rw [Server.setChallenge, setPeer_self]

theorem setChallenge_of_ne (s : Server) {p q : Nat} (h : q ≠ p)
    (f : Option Challenge → Option Challenge) :
    ((s.setChallenge p f).peers q).challenge = (s.peers q).challenge := by
  rw [Server.setChallenge, setPeer_of_ne s h]

/-- A challenge that is still to be filled. -/
def blankChallenge : Challenge := ⟨0xFF, Vector.replicate 64 0⟩

/-- The targets of a routed datagram. -/
def Server.targets (s : Server) (layout : Layout) (peer : Nat) (payload : Bytes) : List Nat :=
  match s.ipCache.get? (readInt32BE payload layout.dst) with
  | some item => [item.peer]
  | none => s.all (s.peers peer).rinfo

/-- The server behind `ipCache.set`. -/
def Server.routed (s : Server) (layout : Layout) (later peer : Nat) (payload : Bytes) : Server :=
  { s with
    ipCache := s.ipCache.set (readInt32BE payload layout.src) ⟨later + timeout, peer⟩ }

/-- The event is about this login. -/
def Event.resumes (event : Event) (id : Nat) : Prop :=
  event = .timedOut id ∨ ∃ found, event = .lookedUp id found

inductive Turn (host : Host) (s : Server) : Event → Env → Server → List Action → Prop
  /-- Nothing to do, or a ping. -/
  | idle {event env acts} : (∀ id, event.resumes id → s.logins id = none) →
      (∀ a ∈ acts, Control s a) → Turn host s event env s acts
  /-- A message that only keeps its peer alive, or repeats its challenge. -/
  | kept {msg rinfo env acts} : (∀ a ∈ acts, Control s a) →
      Turn host s (.message msg rinfo) env (s.touched env.now rinfo) acts
  /-- `onIpv4` or `onIpv4Frag` for a packet that is too short. -/
  | ignored {msg rinfo env} (layout : Layout) :
      (host.authProvider = true → s.loggedIn rinfo = true) →
      (parseHead msg).type = some layout.type →
      Turn host s (.message msg rinfo) env (s.touched env.now rinfo)
        [.forward layout.type (s.peerFor rinfo) (msg.drop 1)]
  | routed {msg rinfo env} (layout : Layout) (acts : List Action) :
      (host.authProvider = true → s.loggedIn rinfo = true) →
      (layout = ipv4Layout ∨ layout = ipv4FragLayout) →
      (parseHead msg).type = some layout.type → 20 < (msg.drop 1).length →
      (∀ a ∈ acts, ToPeers
        (((s.touched env.now rinfo).routed layout env.later (s.peerFor rinfo) (msg.drop 1)).targets
          layout (s.peerFor rinfo) (msg.drop 1))
        layout.type (msg.drop 1) (s.touched env.now rinfo) a) →
      Turn host s (.message msg rinfo) env
        ((s.touched env.now rinfo).routed layout env.later (s.peerFor rinfo) (msg.drop 1))
        (.forward layout.type (s.peerFor rinfo) (msg.drop 1) :: acts)
  | begun {msg rinfo env} (challenge : Challenge) : host.authProvider = true →
      s.loggedIn rinfo = false → (parseHead msg).type = some .authMe →
      ((s.touched env.now rinfo).peers (s.peerFor rinfo)).challenge = some challenge →
      20 < (msg.drop 1).length →
      Turn host s (.message msg rinfo) env
        { s.touched env.now rinfo with
          logins := Function.update s.logins s.begun (some ⟨s.peerFor rinfo,
            host.decode ((msg.drop 1).drop 20), (msg.drop 1).take 20⟩)
          begun := s.begun + 1 } []
  | published {msg rinfo env} : host.authProvider = true → s.loggedIn rinfo = false →
      ((s.touched env.now rinfo).peers (s.peerFor rinfo)).challenge = none →
      Turn host s (.message msg rinfo) env
        { (s.touched env.now rinfo).setChallenge (s.peerFor rinfo) fun _ => some blankChallenge with
          filling := Function.update s.filling (s.peerFor rinfo) true } []
  /-- The response was right. -/
  | admitted {id env} (sha1 : Bytes) (login : Login) : s.logins id = some login →
      verify host sha1 (s.challengeOf login) login.response = true →
      Turn host s (.lookedUp id (.ok sha1)) env
        ((s.settled id).setUser login.peer ⟨login.username⟩) []
  /-- The response was wrong, the lookup failed or took too long. -/
  | dismissed {event env acts} (id : Nat) (login : Login) : s.logins id = some login →
      event.resumes id → (∀ a ∈ acts, Control s a) → Turn host s event env (s.settled id) acts
  | scribbled {peer random env} : s.filling peer = true →
      Turn host s (.scribbled peer random) env
        (s.setChallenge peer fun c => c.map fun c => { c with random := random }) []
  | filled {peer random env acts} : s.filling peer = true →
      (env.throws (s.peers peer).rinfo = none →
        acts = [.send (s.peers peer).rinfo (4 :: 0 :: random.toList)]) →
      (∀ a ∈ acts, Control s a) →
      Turn host s (.filled peer random) env
        ({ s with filling := Function.update s.filling peer false }.setChallenge peer
          fun _ => some ⟨0, random⟩) acts
  | fillFailed {peer message env} : s.filling peer = true →
      Turn host s (.fillFailed peer message) env
        { s with filling := Function.update s.filling peer false } []
  | sendFailed {addr env} : Turn host s (.sendFailed addr) env
      { s with manager := s.manager.delete (addr2str addr) } []
  | interval {env} : Turn host s .interval env
      { s with
        manager := clearCacheItem env.now s.manager
        ipCache := clearCacheItem env.later s.ipCache } []

/-- The targets of `route`, whatever its world. -/
theorem route_adds (layout : Layout) (env : Env) (peer : Nat) (payload : Bytes) (w : World) :
    Adds (ToPeers (w.server.targets layout peer payload) layout.type payload) w
      (after (route layout env peer payload w)) := by
  unfold route Server.targets
  rw [bind_ok (getServer_apply w)]
  cases w.server.ipCache.get? (readInt32BE payload layout.dst) with
  | some item => exact sendTo_adds env item.peer layout.type payload w
  | none => exact sendEach_adds env layout.type payload _ w

theorem Adds.from_nil {P : Server → Action → Prop} {s : Server} {w : World}
    (h : Adds P ⟨s, []⟩ w) : w.server = s ∧ ∀ a ∈ w.actions, P s a := by
  obtain ⟨added, heq, hall⟩ := h.actions
  rw [List.nil_append] at heq
  exact ⟨h.server, heq ▸ hall⟩

section Turns

variable {host : Host} {s : Server} {env : Env}

/-- The turn that leaves this world. -/
def Leads (host : Host) (s : Server) (event : Event) (env : Env) (w : World) : Prop :=
  Turn host s event env w.server w.actions

theorem Leads.of_eq {event : Event} {w : World} {s' : Server} {acts : List Action}
    (hserver : w.server = s') (hacts : w.actions = acts) (h : Turn host s event env s' acts) :
    Leads host s event env w := by
  subst hserver hacts
  exact h

theorem onLogin_turn (hauth : host.authProvider = true) {msg : Bytes} {rinfo : AddressInfo}
    (hlog : s.loggedIn rinfo = false) (htype : (parseHead msg).type = some .authMe) :
    Leads host s (.message msg rinfo) env
      (after (onLogin host (s.peerFor rinfo) (msg.drop 1) ⟨s.touched env.now rinfo, []⟩)) := by
  have hkept : Leads host s (.message msg rinfo) env ⟨s.touched env.now rinfo, []⟩ :=
    Turn.kept (by simp)
  unfold onLogin
  rw [bind_ok (getServer_apply _)]
  dsimp only
  rw [hauth, Bool.true_and]
  cases hchallenge : ((s.touched env.now rinfo).peers (s.peerFor rinfo)).challenge with
  | none => exact hkept
  | some challenge =>
    rw [Option.isSome_some, if_pos rfl]
    by_cases hlen : (msg.drop 1).length ≤ 20
    · rw [if_pos hlen]
      exact hkept
    · rw [if_neg hlen]
      have hturn : Turn host s (.message msg rinfo) env _ _ :=
        Turn.begun challenge hauth hlog htype hchallenge (by omega)
      rw [← touched_logins s env.now rinfo, ← touched_begun s env.now rinfo] at hturn
      exact hturn

theorem onStranger_turn (hauth : host.authProvider = true) {msg : Bytes} {rinfo : AddressInfo}
    (hlog : s.loggedIn rinfo = false) :
    Leads host s (.message msg rinfo) env
      (after (onStranger env (s.peerFor rinfo) ⟨s.touched env.now rinfo, []⟩)) := by
  unfold onStranger
  rw [bind_ok (getServer_apply _)]
  dsimp only
  cases hchallenge : ((s.touched env.now rinfo).peers (s.peerFor rinfo)).challenge with
  | none =>
    have hturn : Turn host s (.message msg rinfo) env _ [] := Turn.published hauth hlog hchallenge
    rw [← touched_filling s env.now rinfo] at hturn
    exact hturn
  | some challenge =>
    dsimp only
    by_cases hmarker : challenge.marker = 0xFF
    · rw [if_pos hmarker]
      exact Turn.kept (by simp)
    · rw [if_neg hmarker]
      obtain ⟨hserver, hacts⟩ := (@sendTo_control env (s.peerFor rinfo) .authMe rfl
        challenge.buffer ⟨s.touched env.now rinfo, []⟩).from_nil
      exact Leads.of_eq hserver rfl (Turn.kept hacts)

/-- What `onIpv4` and `onIpv4Frag` leave. -/
theorem onRouted_result (layout : Layout) (env : Env) (p : Nat) (payload : Bytes) (t : Server) :
    ∃ acts, after (onRouted layout env p payload ⟨t, []⟩) =
        ⟨if payload.length ≤ 20 then t else t.routed layout env.later p payload,
          .forward layout.type p payload :: acts⟩ ∧
      ∀ a ∈ acts, 20 < payload.length ∧ ToPeers
        ((t.routed layout env.later p payload).targets layout p payload) layout.type payload t a := by
  unfold onRouted
  rw [bind_ok (act_apply _ _)]
  dsimp only
  by_cases hlen : payload.length ≤ 20
  · rw [if_pos hlen, if_pos hlen]
    exact ⟨[], rfl, by simp⟩
  · rw [if_neg hlen, if_neg hlen, bind_ok (modifyServer_apply _ _)]
    have hsent := route_adds layout env p payload
      ⟨t.routed layout env.later p payload, [.forward layout.type p payload]⟩
    obtain ⟨added, heq, hall⟩ := hsent.actions
    refine ⟨added, ?_, fun a ha => ⟨by omega, hall a ha⟩⟩
    exact World.ext hsent.server heq

theorem onRouted_turn {layout : Layout} (hlayout : layout = ipv4Layout ∨ layout = ipv4FragLayout)
    {msg : Bytes} {rinfo : AddressInfo}
    (hlog : host.authProvider = true → s.loggedIn rinfo = true)
    (htype : (parseHead msg).type = some layout.type) :
    Leads host s (.message msg rinfo) env
      (after (onRouted layout env (s.peerFor rinfo) (msg.drop 1) ⟨s.touched env.now rinfo, []⟩)) := by
  obtain ⟨acts, hresult, hall⟩ := onRouted_result layout env (s.peerFor rinfo) (msg.drop 1)
    (s.touched env.now rinfo)
  rw [hresult]
  by_cases hlen : (msg.drop 1).length ≤ 20
  · have hnone : acts = [] := by
      refine List.eq_nil_iff_forall_not_mem.mpr fun a ha => ?_
      have := (hall a ha).1
      omega
    rw [if_pos hlen, hnone]
    exact Turn.ignored layout hlog htype
  · rw [if_neg hlen]
    exact Turn.routed layout acts hlog hlayout htype (by omega) fun a ha => (hall a ha).2

theorem onPacket_turn {msg : Bytes} {rinfo : AddressInfo}
    (hlog : host.authProvider = true → s.loggedIn rinfo = true) :
    Leads host s (.message msg rinfo) env
      (after (onPacket env (s.peerFor rinfo) (parseHead msg).type (msg.drop 1)
        ⟨s.touched env.now rinfo, []⟩)) := by
  have hkept : Leads host s (.message msg rinfo) env ⟨s.touched env.now rinfo, []⟩ :=
    Turn.kept (by simp)
  cases htype : (parseHead msg).type with
  | none => exact hkept
  | some type =>
    cases type with
    | ipv4 => exact onRouted_turn (Or.inl rfl) hlog htype
    | ipv4Frag => exact onRouted_turn (Or.inr rfl) hlog htype
    | keepalive => exact hkept
    | ping => exact hkept
    | authMe => exact hkept
    | info => exact hkept

/-- The start of a ping is no routed datagram. -/
theorem take_ping {msg : Bytes} (h : (parseHead msg).type = some .ping) :
    isRouted (msg.take 4) = false := by
  cases msg with
  | nil => rfl
  | cons b rest =>
    have htype : ForwarderType.ofCode (b &&& 0x7f) = some .ping := h
    have hb : b ≠ 1 ∧ b ≠ 3 := by
      constructor
      · rintro rfl
        exact absurd htype (by decide)
      · rintro rfl
        exact absurd htype (by decide)
    simp [isRouted, hb.1, hb.2]

theorem onMessage_turn (msg : Bytes) (rinfo : AddressInfo) :
    Leads host s (.message msg rinfo) env (after (onMessage host env msg rinfo ⟨s, []⟩)) := by
  rw [onMessage_eq]
  split
  case isTrue => exact Turn.idle (by simp [Event.resumes]) (by simp)
  split
  case isTrue hping =>
    obtain ⟨hserver, hacts⟩ := (sendToRaw_adds env rinfo (msg.take 4) ⟨s, []⟩).from_nil
    refine Leads.of_eq hserver rfl (Turn.idle (by simp [Event.resumes]) fun a ha => ?_)
    rw [hacts a ha]
    exact take_ping hping.1
  split
  case isTrue hneed =>
    rw [Bool.and_eq_true, Bool.not_eq_true'] at hneed
    unfold onNeedAuth
    split
    case isTrue htype => exact onLogin_turn hneed.1 hneed.2 htype
    case isFalse => exact onStranger_turn hneed.1 hneed.2
  case isFalse hneed =>
    refine onPacket_turn fun hauth => ?_
    rw [hauth, Bool.true_and, Bool.not_eq_true', Bool.not_eq_false] at hneed
    exact hneed

/-! ## The other events -/

theorem onVerdict_admits (login : Login) (w : World) :
    onVerdict env login (.ok true) w = .ok ()
      ⟨w.server.setUser login.peer ⟨login.username⟩, w.actions⟩ := rfl

theorem onVerdict_control (login : Login) {verdict : Except String Bool}
    (h : verdict ≠ .ok true) : Steps (Adds Control) (onVerdict env login verdict) := by
  have hsettle : Steps (Adds Control) (settle env login verdict) := by
    match verdict with
    | .ok true => exact absurd rfl h
    | .ok false => exact steps_bind (sendInfo_control env login.peer wrongPassword) fun _ => steps_pure _
    | .error message => exact steps_throw _
  refine steps_bind (steps_tryCatch hsettle fun e => steps_pure _) fun err => ?_
  exact steps_ite (fun _ => sendInfo_control env login.peer err) fun _ => steps_pure ()

theorem resume_turn {event : Event} (id : Nat) (verdict : Server → Login → Except String Bool)
    (hevent : event.resumes id) (hadmits : ∀ login, verdict s login = .ok true → ∃ sha1, event = .lookedUp id (.ok sha1) ∧
      verify host sha1 (s.challengeOf login) login.response = true) :
    Leads host s event env (after (resume env id verdict ⟨s, []⟩)) := by
  unfold resume
  rw [bind_ok (getServer_apply _)]
  dsimp only
  cases hlogin : s.logins id with
  | none =>
    refine Turn.idle (fun j hj => ?_) (by simp)
    have hid : j = id := by
      rcases hevent with rfl | ⟨found, rfl⟩ <;> simpa [Event.resumes, eq_comm] using hj
    rw [hid]
    exact hlogin
  | some login =>
    dsimp only
    rw [bind_ok (modifyServer_apply _ _)]
    by_cases hverdict : verdict s login = .ok true
    · obtain ⟨sha1, rfl, hverify⟩ := hadmits login hverdict
      rw [hverdict, onVerdict_admits]
      exact Turn.admitted sha1 login hlogin hverify
    · obtain ⟨hserver, hacts⟩ :=
        (@onVerdict_control env login _ hverdict ⟨s.settled id, []⟩).from_nil
      exact Leads.of_eq hserver rfl (Turn.dismissed id login hlogin hevent hacts)

theorem lookedUp_turn (id : Nat) (found : Except String Bytes) :
    Leads host s (.lookedUp id found) env
      (after (handle host env (.lookedUp id found) ⟨s, []⟩)) := by
  refine resume_turn id _ (Or.inr ⟨found, rfl⟩) fun login hverdict => ?_
  cases found with
  | error message => cases hverdict
  | ok sha1 => exact ⟨sha1, rfl, Except.ok.inj hverdict⟩

theorem timedOut_turn (id : Nat) :
    Leads host s (.timedOut id) env (after (handle host env (.timedOut id) ⟨s, []⟩)) :=
  resume_turn id _ (Or.inl rfl) fun _ hverdict => by cases hverdict

theorem onFilled_turn {peer : Nat} (hfilling : s.filling peer = true) (random : Vector UInt8 64) :
    Leads host s (.filled peer random) env (after (onFilled env peer random ⟨s, []⟩)) := by
  unfold onFilled
  rw [bind_ok (modifyServer_apply _ _), bind_ok (modifyPeer_apply _ _ _)]
  have hrinfo : (Function.update s.peers peer
      { s.peers peer with challenge := some ⟨0, random⟩ } peer).rinfo = (s.peers peer).rinfo := by
    rw [Function.update_self]
  unfold sendTo
  rw [bind_ok (getServer_apply _)]
  dsimp only
  rw [hrinfo]
  unfold sendToRaw
  cases hthrows : env.throws (s.peers peer).rinfo with
  | some message =>
    refine Turn.filled hfilling (fun h => ?_) (by simp)
    rw [hthrows] at h
    cases h
  | none =>
    refine Turn.filled hfilling (fun _ => rfl) ?_
    intro a ha
    rw [List.mem_singleton.mp ha]
    rfl

theorem whileFilling_turn {event : Event} (hevent : ∀ id, ¬ event.resumes id) {peer : Nat}
    {x : ServerM Unit} (hx : s.filling peer = true → Leads host s event env (after (x ⟨s, []⟩))) :
    Leads host s event env (after (whileFilling peer x ⟨s, []⟩)) := by
  unfold whileFilling
  rw [bind_ok (getServer_apply _), ite_run]
  split
  case isTrue hfilling => exact hx hfilling
  case isFalse => exact Turn.idle (fun id hid => absurd hid (hevent id)) (by simp)

end Turns

/-- Every turn is one of the outcomes. -/
theorem step_turn (host : Host) (s : Server) (input : Input) :
    Turn host s input.event input.env (step host s input).1 (step host s input).2 := by
  obtain ⟨event, env⟩ := input
  change Leads host s event env (after (handle host env event ⟨s, []⟩))
  cases event with
  | message msg rinfo => exact onMessage_turn msg rinfo
  | lookedUp id found => exact lookedUp_turn id found
  | timedOut id => exact timedOut_turn id
  | scribbled peer random =>
    exact whileFilling_turn (by simp [Event.resumes]) fun hfilling => Turn.scribbled hfilling
  | filled peer random =>
    exact whileFilling_turn (by simp [Event.resumes]) fun hfilling => onFilled_turn hfilling random
  | fillFailed peer message =>
    exact whileFilling_turn (by simp [Event.resumes]) fun hfilling => Turn.fillFailed hfilling
  | sendFailed addr => exact Turn.sendFailed
  | interval => exact Turn.interval

end Grid0Relay.Forwarder
