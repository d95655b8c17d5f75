import Grid0Relay.Logic.ForwarderRuns

/-!
# Who may send through the forwarding server

Between the check of `peer.user` and the forwarding nothing else runs, so a datagram is
forwarded only for an address that is logged in. Logging in suspends twice. What is
proved of it is about the whole past: which message began the login that sets the user,
and that its timer had not run out.
-/

namespace Grid0Relay.Forwarder

open Lib Lib.Exec Lib.Stream

/-- A message of the past began this login, and its timer has not run out since. -/
def Began (host : Host) (past : List Input) (id : Nat) (login : Login) : Prop :=
  ∃ before msg rinfo env since, past = before ++ ⟨.message msg rinfo, env⟩ :: since ∧
    (parseHead msg).type = some .authMe ∧ (serve host before).begun = id ∧
    login = ⟨(serve host before).peerFor rinfo, host.decode ((msg.drop 1).drop 20),
      (msg.drop 1).take 20⟩ ∧
    ∀ i ∈ since, i.event ≠ .timedOut id

theorem Began.concat {host : Host} {past : List Input} {id : Nat} {login : Login}
    (h : Began host past id login) {input : Input} (hinput : input.event ≠ .timedOut id) :
    Began host (past ++ [input]) id login := by
  obtain ⟨before, msg, rinfo, env, since, rfl, htype, hid, hlogin, hsince⟩ := h
  refine ⟨before, msg, rinfo, env, since ++ [input], by simp, htype, hid, hlogin, ?_⟩
  intro i hi
  rcases List.mem_append.mp hi with hi | hi
  · exact hsince i hi
  · rw [List.mem_singleton.mp hi]
    exact hinput

section Turn

variable {host : Host} {s s' : Server} {event : Event} {env : Env} {acts : List Action}

/-- A login that is waiting was waiting before, or this message began it. -/
theorem turn_logins (h : Turn host s event env s' acts) {id : Nat} {login : Login}
    (hlogin : s'.logins id = some login) :
    (s.logins id = some login ∧ event ≠ .timedOut id) ∨
    ∃ msg rinfo, event = .message msg rinfo ∧ (parseHead msg).type = some .authMe ∧
      s.begun = id ∧ login = ⟨s.peerFor rinfo, host.decode ((msg.drop 1).drop 20),
        (msg.drop 1).take 20⟩ := by
  cases h with
  | idle hnone _ =>
    refine Or.inl ⟨hlogin, ?_⟩
    rintro rfl
    rw [hnone id (Or.inl rfl)] at hlogin
    cases hlogin
  | kept _ | ignored _ _ _ => exact Or.inl ⟨by rwa [touched_logins] at hlogin, by simp⟩
  | @routed msg rinfo env layout acts _ _ _ _ _ =>
    refine Or.inl ⟨?_, by simp⟩
    rw [← touched_logins s env.now rinfo]
    exact hlogin
  | @begun msg rinfo env challenge _ _ htype _ _ =>
    change Function.update s.logins s.begun _ id = some login at hlogin
    by_cases hid : id = s.begun
    · rw [hid, Function.update_self, Option.some.injEq] at hlogin
      exact Or.inr ⟨msg, rinfo, rfl, htype, hid.symm, hlogin.symm⟩
    · rw [Function.update_of_ne hid] at hlogin
      exact Or.inl ⟨hlogin, by simp⟩
  | @published msg rinfo env _ _ _ =>
    refine Or.inl ⟨?_, by simp⟩
    rw [← touched_logins s env.now rinfo]
    exact hlogin
  | @admitted other _ sha1 _ _ _ =>
    exact Or.inl ⟨(@settled_logins s other _ _ hlogin).2, by simp⟩
  | dismissed other _ _ hevent _ =>
    obtain ⟨hid, hold⟩ := settled_logins hlogin
    refine Or.inl ⟨hold, ?_⟩
    rintro rfl
    rcases hevent with heq | ⟨found, heq⟩
    · exact hid (Event.timedOut.inj heq)
    · cases heq
  | scribbled _ | filled _ _ _ | fillFailed _ | sendFailed | interval =>
    exact Or.inl ⟨hlogin, by simp⟩

/-- Only a response that was right sets a user. -/
theorem turn_user (hsound : Sound s) (h : Turn host s event env s' acts) {p : Nat} {u : User}
    (hset : (s'.peers p).user = some u) :
    (s.peers p).user = some u ∨
    ∃ id sha1 login, event = .lookedUp id (.ok sha1) ∧ s.logins id = some login ∧
      login.peer = p ∧ u.username = login.username ∧
      verify host sha1 (s.challengeOf login) login.response = true := by
  have htouched : ∀ rinfo, ((s.touched env.now rinfo).peers p).user = (s.peers p).user :=
    fun rinfo => (touched_same hsound env.now rinfo p).1
  cases h with
  | idle _ _ => exact Or.inl hset
  | kept _ | ignored _ _ _ | routed layout acts _ _ _ _ _ | begun challenge _ _ _ _ _ =>
    exact Or.inl ((htouched _).symm.trans hset)
  | published _ _ _ =>
    dsimp only at hset
    rw [setChallenge_user, htouched] at hset
    exact Or.inl hset
  | admitted sha1 login hlogin hverify =>
    by_cases hp : p = login.peer
    · refine Or.inr ⟨_, sha1, login, rfl, hlogin, hp.symm, ?_, hverify⟩
      rw [hp, Server.setUser, setPeer_self, Option.some.injEq] at hset
      rw [← hset]
    · rw [Server.setUser, setPeer_of_ne _ hp] at hset
      exact Or.inl hset
  | dismissed _ _ _ _ _ => exact Or.inl hset
  | scribbled _ =>
    rw [setChallenge_user] at hset
    exact Or.inl hset
  | filled _ _ _ =>
    rw [setChallenge_user] at hset
    exact Or.inl hset
  | fillFailed _ | sendFailed | interval => exact Or.inl hset

theorem Server.loggedIn_iff {rinfo : AddressInfo} (h : s.loggedIn rinfo = true) :
    ∃ item, s.current rinfo = some item ∧ item.peer = s.peerFor rinfo ∧
      (s.peers item.peer).user.isSome = true := by
  unfold Server.loggedIn at h
  unfold Server.peerFor
  cases hcurrent : s.current rinfo with
  | none =>
    rw [hcurrent] at h
    cases h
  | some item =>
    rw [hcurrent] at h
    exact ⟨item, rfl, rfl, h⟩

theorem turn_forward (hauth : host.authProvider = true) (h : Turn host s event env s' acts)
    {type : ForwarderType} {p : Nat} {payload : Bytes} (hmem : .forward type p payload ∈ acts) :
    ∃ msg rinfo item, event = .message msg rinfo ∧ payload = msg.drop 1 ∧
      s.current rinfo = some item ∧ item.peer = p ∧ (s.peers p).user.isSome = true := by
  have hfrom : ∀ {msg rinfo} (type' : ForwarderType),
      (host.authProvider = true → s.loggedIn rinfo = true) → event = .message msg rinfo →
      Action.forward type p payload = .forward type' (s.peerFor rinfo) (msg.drop 1) →
      ∃ msg rinfo item, event = .message msg rinfo ∧ payload = msg.drop 1 ∧
        s.current rinfo = some item ∧ item.peer = p ∧ (s.peers p).user.isSome = true := by
    intro msg rinfo type' hlog hevent heq
    obtain ⟨-, rfl, rfl⟩ := Action.forward.inj heq
    obtain ⟨item, hcurrent, hpeer, huser⟩ := s.loggedIn_iff (hlog hauth)
    exact ⟨msg, rinfo, item, hevent, rfl, hcurrent, hpeer, hpeer ▸ huser⟩
  have hcontrol : (∀ a ∈ acts, Control s a) → False := fun hall => hall _ hmem
  cases h with
  | idle _ hall | kept hall => exact (hcontrol hall).elim
  | ignored layout hlog _ => exact hfrom layout.type hlog rfl (List.mem_singleton.mp hmem)
  | routed layout acts hlog _ _ _ hall =>
    rcases List.mem_cons.mp hmem with heq | hmem
    · exact hfrom layout.type hlog rfl heq
    · obtain ⟨q, -, hsend⟩ := hall _ hmem
      cases hsend
  | begun challenge _ _ _ _ _ => cases hmem
  | published _ _ _ => cases hmem
  | admitted _ _ _ _ => cases hmem
  | dismissed _ _ _ _ hall => exact (hcontrol hall).elim
  | scribbled _ => cases hmem
  | filled _ _ hall => exact (hcontrol hall).elim
  | fillFailed _ => cases hmem
  | sendFailed => cases hmem
  | interval => cases hmem

/-- A route that was not there before leads to a peer that has logged in. -/
theorem turn_cached (hauth : host.authProvider = true) (h : Turn host s event env s' acts)
    {ip : Int} {item : CacheItem} (hmem : (ip, item) ∈ s'.ipCache.entries) :
    (ip, item) ∈ s.ipCache.entries ∨ (s.peers item.peer).user.isSome = true := by
  cases h with
  | @routed msg rinfo env layout acts hlog _ _ _ _ =>
    rcases OrderedMap.mem_set.mp hmem with ⟨-, rfl⟩ | ⟨-, hold⟩
    · obtain ⟨item, -, hpeer, huser⟩ := s.loggedIn_iff (hlog hauth)
      exact Or.inr (hpeer ▸ huser)
    · rw [touched_ipCache] at hold
      exact Or.inl hold
  | idle _ _ => exact Or.inl hmem
  | kept _ | ignored _ _ _ => exact Or.inl (by rwa [touched_ipCache] at hmem)
  | @begun msg rinfo env _ _ _ _ _ _ | @published msg rinfo env _ _ _ =>
    exact Or.inl (touched_ipCache s env.now rinfo ▸ hmem)
  | admitted _ _ _ _ | dismissed _ _ _ _ _ | scribbled _ | filled _ _ _ | fillFailed _
  | sendFailed => exact Or.inl hmem
  | interval => exact Or.inl (OrderedMap.mem_filter.mp hmem).1

end Turn

theorem serve_began {host : Host} (past : List Input) {id : Nat} {login : Login}
    (h : (serve host past).logins id = some login) : Began host past id login := by
  induction past using List.reverseRecOn with
  | nil => cases h
  | append_singleton past input ih =>
    rw [serve_concat] at h
    rcases turn_logins (step_turn host _ input) h with ⟨hold, hinput⟩ | ⟨msg, rinfo, hevent, htype, hid, hlogin⟩
    · exact (ih hold).concat hinput
    · obtain ⟨event, env⟩ := input
      obtain rfl : event = .message msg rinfo := hevent
      exact ⟨past, msg, rinfo, env, [], rfl, htype, hid, hlogin, by simp⟩

/-- With an `AuthProvider`, after any past: what is forwarded came from an address whose
current peer has logged in; a user is set only by a response that a message of that
peer brought, verified before its timer ran out; and the routes written lead to peers
that had logged in. -/
theorem forwarded_logged_in (host : Host) (hauth : host.authProvider = true) (past : List Input)
    (input : Input) :
    (∀ type p payload, .forward type p payload ∈ (step host (serve host past) input).2 →
      ∃ msg rinfo item, input.event = .message msg rinfo ∧ payload = msg.drop 1 ∧
        (serve host past).current rinfo = some item ∧ item.peer = p ∧
        ((serve host past).peers p).user.isSome = true) ∧
    (∀ p u, ((step host (serve host past) input).1.peers p).user = some u →
      ((serve host past).peers p).user ≠ some u →
      ∃ id sha1 login, input.event = .lookedUp id (.ok sha1) ∧ Began host past id login ∧
        login.peer = p ∧ u.username = login.username ∧
        verify host sha1 ((serve host past).challengeOf login) login.response = true) ∧
    (∀ ip item, (step host (serve host past) input).1.ipCache.get? ip = some item →
      (serve host past).ipCache.get? ip ≠ some item →
      ((serve host past).peers item.peer).user.isSome = true) := by
  have hturn := step_turn host (serve host past) input
  refine ⟨fun type p payload hmem => turn_forward hauth hturn hmem, fun p u hset hnew => ?_,
    fun ip item hget hnew => ?_⟩
  · rcases turn_user (serve_sound hauth past) hturn hset with
      hold | ⟨id, sha1, login, hevent, hlogin, hpeer, hname, hverify⟩
    · exact absurd hold hnew
    · exact ⟨id, sha1, login, hevent, serve_began past hlogin, hpeer, hname, hverify⟩
  · rcases turn_cached hauth hturn (OrderedMap.get?_eq_some.mp hget) with hold | huser
    · exact absurd (OrderedMap.get?_eq_some.mpr hold) hnew
    · exact huser

theorem forwarded_logged_in_alice :
    (∃ msg rinfo item, (datagram alice (packetTo 5 0)).event = .message msg rinfo ∧
      (packetTo 5 0).drop 1 = msg.drop 1 ∧
      (serve plainHost (loginOf alice)).current rinfo = some item ∧ item.peer = 0 ∧
      ((serve plainHost (loginOf alice)).peers 0).user.isSome = true) ∧
    (∃ id sha1 login, Event.lookedUp 0 (.ok []) = .lookedUp id (.ok sha1) ∧
      Began plainHost ((loginOf alice).take 3) id login ∧ login.peer = 0 ∧
      "a" = login.username ∧ verify plainHost sha1
        ((serve plainHost ((loginOf alice).take 3)).challengeOf login) login.response = true) ∧
    ((serve plainHost (loginOf alice)).peers 0).user.isSome = true := by
  have hforward : .forward .ipv4 0 ((packetTo 5 0).drop 1) ∈
      (step plainHost (serve plainHost (loginOf alice)) (datagram alice (packetTo 5 0))).2 := by
    decide
  have hset : ((step plainHost (serve plainHost ((loginOf alice).take 3))
      ⟨.lookedUp 0 (.ok []), calmEnv⟩).1.peers 0).user = some ⟨"a"⟩ := by decide
  have hcached : (step plainHost (serve plainHost (loginOf alice))
      (datagram alice (packetTo 5 0))).1.ipCache.get? 84215045 = some ⟨30000, 0⟩ := by decide
  exact ⟨(forwarded_logged_in plainHost rfl _ _).1 _ _ _ hforward,
    (forwarded_logged_in plainHost rfl _ _).2.1 _ _ hset (by decide),
    (forwarded_logged_in plainHost rfl _ _).2.2 _ _ hcached (by decide)⟩

end Grid0Relay.Forwarder
