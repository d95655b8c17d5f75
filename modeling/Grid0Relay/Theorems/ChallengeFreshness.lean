import Grid0Relay.Theorems.InboundAuthentication

/-!
# What a response is verified against

`onNeedAuth` puts the challenge into the peer before `randomFill` has filled it, and
only the branch that sends it looks at the byte that says so. When no response comes
before its challenge is filled, and the challenge can be sent, every response that logs
a peer in is verified against random bytes that the peer had been sent.
-/

namespace Grid0Relay.Forwarder

open Lib Lib.Exec Lib.Stream

/-- A response comes only when the challenge it answers is filled. -/
def AnswersFilled (s : Server) : Event → Prop
  | .message msg rinfo =>
    match s.current rinfo with
    | none => True
    | some item =>
      match (s.peers item.peer).challenge with
      | none => True
      | some challenge => (parseHead msg).type = some .authMe → s.loggedIn rinfo = false →
          20 < (msg.drop 1).length → challenge.marker ≠ 0xFF
  | _ => True

/-- A challenge that has been filled can be sent. -/
def SendsFilled (s : Server) (env : Env) : Event → Prop
  | .filled peer _ => env.throws (s.peers peer).rinfo = none
  | _ => True

def Awaits (s : Server) (input : Input) : Prop :=
  AnswersFilled s input.event ∧ SendsFilled s input.env input.event

instance (s : Server) (event : Event) : Decidable (AnswersFilled s event) := by
  unfold AnswersFilled
  split
  · split
    · infer_instance
    · split <;> infer_instance
  · infer_instance

instance (s : Server) (env : Env) (event : Event) : Decidable (SendsFilled s env event) := by
  unfold SendsFilled
  split <;> infer_instance

instance (s : Server) (input : Input) : Decidable (Awaits s input) :=
  inferInstanceAs (Decidable (_ ∧ _))

/-- `randomFill` filled the challenge of this peer with these bytes. -/
def FilledWith (host : Host) (past : List Input) (p : Nat) (random : Vector UInt8 64) : Prop :=
  ∃ before env since, past = before ++ ⟨.filled p random, env⟩ :: since ∧
    (serve host before).filling p = true

/-- The bytes are random, and an `AuthMe` brought them to the peer. -/
structure Delivered (host : Host) (past : List Input) (out : List Action) (p : Nat)
    (rinfo : AddressInfo) (random : Vector UInt8 64) : Prop where
  filled : FilledWith host past p random
  sent : .send rinfo (4 :: 0 :: random.toList) ∈ out

theorem Delivered.mono {host : Host} {past : List Input} {out : List Action} {p : Nat}
    {rinfo : AddressInfo} {random : Vector UInt8 64} (h : Delivered host past out p rinfo random)
    (input : Input) (acts : List Action) :
    Delivered host (past ++ [input]) (out ++ acts) p rinfo random := by
  obtain ⟨⟨before, env, since, rfl, hfilling⟩, hsent⟩ := h
  exact ⟨⟨before, env, since ++ [input], by simp, hfilling⟩, List.mem_append_left _ hsent⟩

structure Fresh (host : Host) (past : List Input) (out : List Action) (s : Server) : Prop where
  filling : ∀ p, s.filling p = true → ∃ random, (s.peers p).challenge = some ⟨0xFF, random⟩
  delivered : ∀ p challenge, (s.peers p).challenge = some challenge → challenge.marker ≠ 0xFF →
    Delivered host past out p (s.peers p).rinfo challenge.random
  logins : ∀ id login, s.logins id = some login →
    ∃ challenge, (s.peers login.peer).challenge = some challenge ∧ challenge.marker ≠ 0xFF

section Turn

variable {host : Host} {past : List Input} {out : List Action} {s s' : Server}

/-- A turn that leaves the challenges and begins nothing. -/
theorem Fresh.frame (h : Fresh host past out s) (input : Input) (acts : List Action)
    (hchallenge : ∀ p, (s'.peers p).challenge = (s.peers p).challenge)
    (hrinfo : ∀ p, (s.peers p).challenge ≠ none → (s'.peers p).rinfo = (s.peers p).rinfo)
    (hfilling : ∀ p, s'.filling p = true → s.filling p = true)
    (hlogins : ∀ id login, s'.logins id = some login → s.logins id = some login) :
    Fresh host (past ++ [input]) (out ++ acts) s' where
  filling := fun p hp => by
    rw [hchallenge]
    exact h.filling p (hfilling p hp)
  delivered := fun p challenge hp hmarker => by
    rw [hchallenge] at hp
    rw [hrinfo p (by simp [hp])]
    exact (h.delivered p challenge hp hmarker).mono input acts
  logins := fun id login hlogin => by
    rw [hchallenge]
    exact h.logins id login (hlogins id login hlogin)

theorem touched_rinfo (hsound : Sound s) (now : Nat) (rinfo : AddressInfo) {p : Nat}
    (hp : (s.peers p).challenge ≠ none) :
    ((s.touched now rinfo).peers p).rinfo = (s.peers p).rinfo := by
  have hlt : p < s.made := by
    by_contra hge
    exact hp (hsound.fresh p (by omega)).2
  unfold Server.touched
  cases s.current rinfo with
  | none => exact congrArg Peer.rinfo (Function.update_of_ne (by omega) _ _)
  | some item => rfl

theorem Fresh.touched (h : Fresh host past out s) (hsound : Sound s) (input : Input)
    (acts : List Action) (now : Nat) (rinfo : AddressInfo) :
    Fresh host (past ++ [input]) (out ++ acts) (s.touched now rinfo) :=
  h.frame input acts (fun p => (touched_same hsound now rinfo p).2)
    (fun _ hp => touched_rinfo hsound now rinfo hp) (by simp) (by simp)

theorem Fresh.setChallenge (h : Fresh host past out s) (p : Nat)
    (f : Option Challenge → Option Challenge) (filling : Nat → Bool)
    (hfilling : ∀ q, q ≠ p → filling q = true → s.filling q = true)
    (hself : filling p = true → ∃ random, f (s.peers p).challenge = some ⟨0xFF, random⟩)
    (hdelivered : ∀ challenge, f (s.peers p).challenge = some challenge →
      challenge.marker ≠ 0xFF → Delivered host past out p (s.peers p).rinfo challenge.random)
    (hlogins : ∀ id login, s.logins id = some login → login.peer = p →
      ∃ challenge, f (s.peers p).challenge = some challenge ∧ challenge.marker ≠ 0xFF) :
    Fresh host past out { s.setChallenge p f with filling := filling } where
  filling := fun q hq => by
    dsimp only at hq ⊢
    by_cases hqp : q = p
    · subst hqp
      rw [setChallenge_self]
      exact hself hq
    · rw [setChallenge_of_ne s hqp]
      exact h.filling q (hfilling q hqp hq)
  delivered := fun q challenge hq hmarker => by
    dsimp only at hq ⊢
    rw [setChallenge_rinfo]
    by_cases hqp : q = p
    · subst hqp
      rw [setChallenge_self] at hq
      exact hdelivered challenge hq hmarker
    · rw [setChallenge_of_ne s hqp] at hq
      exact h.delivered q challenge hq hmarker
  logins := fun id login hlogin => by
    dsimp only
    by_cases hqp : login.peer = p
    · rw [hqp, setChallenge_self]
      exact hlogins id login hlogin hqp
    · rw [setChallenge_of_ne s hqp]
      exact h.logins id login hlogin

/-- One turn that meets the condition. -/
theorem step_fresh (hs : s = serve host past) (hsound : Sound s) (h : Fresh host past out s)
    (input : Input) (hawaits : Awaits s input) :
    Fresh host (past ++ [input]) (out ++ (step host s input).2) (step host s input).1 := by
  have hturn := step_turn host s input
  obtain ⟨event, env⟩ := input
  revert hturn hawaits
  generalize (step host s ⟨event, env⟩).1 = s'
  generalize (step host s ⟨event, env⟩).2 = acts
  rintro ⟨hanswers, hsends⟩ hturn
  have htouched := fun rinfo => h.touched hsound ⟨event, env⟩ acts env.now rinfo
  have hstay : Fresh host (past ++ [⟨event, env⟩]) (out ++ acts) s :=
    h.frame _ _ (fun _ => rfl) (fun _ _ => rfl) (fun _ hp => hp) fun _ _ hlogin => hlogin
  have hfill : ∀ p, s.filling p = true → ∀ id login, s.logins id = some login →
      login.peer ≠ p := by
    rintro p hp id login hlogin rfl
    obtain ⟨random, hblank⟩ := h.filling _ hp
    obtain ⟨challenge, hsome, hmarker⟩ := h.logins id login hlogin
    rw [hblank, Option.some.injEq] at hsome
    exact hmarker (hsome ▸ rfl)
  cases hturn with
  | idle _ _ => exact hstay
  | kept _ | ignored _ _ _ => exact htouched _
  | @routed msg rinfo _ layout acts _ _ _ _ _ =>
    have ht := htouched rinfo
    exact ⟨ht.filling, ht.delivered, ht.logins⟩
  | @begun msg rinfo _ challenge hauth hlog htype hchallenge hlen =>
    have ht := htouched rinfo
    refine ⟨ht.filling, ht.delivered, fun id login hlogin => ?_⟩
    change Function.update s.logins s.begun _ id = some login at hlogin
    by_cases hid : id = s.begun
    · rw [hid, Function.update_self, Option.some.injEq] at hlogin
      rw [← hlogin]
      refine ⟨challenge, hchallenge, ?_⟩
      rw [(touched_same hsound env.now rinfo _).2] at hchallenge
      -- a peer that has a challenge is in the table
      unfold Server.peerFor at hchallenge
      cases hcurrent : s.current rinfo with
      | none =>
        rw [hcurrent, (hsound.fresh _ (Nat.le_refl _)).2] at hchallenge
        cases hchallenge
      | some item =>
        rw [hcurrent] at hchallenge
        simp only [AnswersFilled, hcurrent, hchallenge] at hanswers
        exact hanswers htype hlog hlen
    · rw [Function.update_of_ne hid] at hlogin
      exact ht.logins id login (by rwa [touched_logins])
  | @published msg rinfo _ _ hlog hnone =>
    have hblank := (htouched rinfo).setChallenge (s.peerFor rinfo) (fun _ => some blankChallenge)
      (Function.update s.filling (s.peerFor rinfo) true)
    refine hblank (fun q hq hfilling => ?_) (fun _ => ⟨_, rfl⟩) (fun challenge hc hmarker => ?_)
      fun id login hlogin hpeer => ?_
    · rw [Function.update_of_ne hq] at hfilling
      rw [touched_filling]
      exact hfilling
    · rw [← Option.some.inj hc] at hmarker
      exact absurd rfl hmarker
    · obtain ⟨challenge, hsome, -⟩ := (htouched rinfo).logins id login hlogin
      rw [hpeer, hnone] at hsome
      cases hsome
  | admitted sha1 login _ _ =>
    exact h.frame _ _ (fun p => setUser_challenge _ _ p _) (fun p _ => setUser_rinfo _ _ p _)
      (fun _ hp => hp) fun _ _ hlogin => (settled_logins hlogin).2
  | dismissed id login _ _ _ =>
    exact h.frame _ _ (fun _ => rfl) (fun _ _ => rfl) (fun _ hp => hp) fun _ _ hlogin =>
      (settled_logins hlogin).2
  | @scribbled peer random _ hfilling =>
    obtain ⟨old, hblank⟩ := h.filling peer hfilling
    refine hstay.setChallenge peer (fun c => c.map fun c => { c with random := random }) s.filling
      (fun _ _ hq => hq) (fun _ => ⟨random, by rw [hblank]; rfl⟩) (fun challenge hc hmarker => ?_)
      fun id login hlogin hpeer => absurd hpeer (hfill peer hfilling id login hlogin)
    rw [hblank] at hc
    rw [← Option.some.inj hc] at hmarker
    exact absurd rfl hmarker
  | @filled peer random _ acts hfilling hacts _ =>
    refine hstay.setChallenge peer (fun _ => some ⟨0, random⟩) (Function.update s.filling peer false)
      (fun q hq hold => ?_) (fun hself => ?_) (fun challenge hc _ => ?_)
      fun id login _ _ => ⟨_, rfl, show (0 : UInt8) ≠ 0xFF by decide⟩
    · rwa [Function.update_of_ne hq] at hold
    · rw [Function.update_self] at hself
      cases hself
    · rw [← Option.some.inj hc]
      refine ⟨⟨past, env, [], rfl, hs ▸ hfilling⟩, ?_⟩
      rw [hacts hsends]
      exact List.mem_append_right _ (List.mem_singleton.mpr rfl)
  | @fillFailed peer _ _ hfilling =>
    refine h.frame _ _ (fun _ => rfl) (fun _ _ => rfl) (fun p hp => ?_) fun _ _ hlogin => hlogin
    change Function.update s.filling peer false p = true at hp
    by_cases hpp : p = peer
    · rw [hpp, Function.update_self] at hp
      cases hp
    · rwa [Function.update_of_ne hpp] at hp
  | sendFailed =>
    exact h.frame _ _ (fun _ => rfl) (fun _ _ => rfl) (fun _ hp => hp) fun _ _ hlogin => hlogin
  | interval =>
    exact h.frame _ _ (fun _ => rfl) (fun _ _ => rfl) (fun _ hp => hp) fun _ _ hlogin => hlogin

end Turn

theorem Fresh.start (host : Host) : Fresh host [] [] .start where
  filling := fun _ h => by cases h
  delivered := fun _ _ h => by cases h
  logins := fun _ _ h => by cases h

theorem serve_fresh {host : Host} (hauth : host.authProvider = true) {inputs : List Input}
    (h : Meets (step host) Awaits .start inputs) :
    Fresh host inputs (Stream.run (step host) .start inputs).2 (serve host inputs) := by
  have hrun := @Meets.history _ _ _ (step host) Awaits
    (fun past out s => s = serve host past ∧ Fresh host past out s)
    (fun past out s input hawaits hI => by
      obtain ⟨rfl, hfresh⟩ := hI
      exact ⟨(serve_concat host past input).symm,
        step_fresh rfl (serve_sound hauth past) hfresh input hawaits⟩)
    [] [] _ ⟨rfl, Fresh.start host⟩ _ h
  exact hrun.2

/-- With an `AuthProvider`, in a run that meets the condition: `onNeedAuth` sets a user
only for a response that is right, and a response that is right was verified against
bytes that `randomFill` had filled the peer's challenge with, and that an `AuthMe` had
brought to that peer. -/
theorem verified_against_sent (host : Host) (hauth : host.authProvider = true)
    (inputs : List Input) (hmeets : Meets (step host) Awaits .start inputs)
    (before : List Input) (input : Input) (rest : List Input)
    (hsplit : inputs = before ++ input :: rest) :
    (∀ p u, ((step host (serve host before) input).1.peers p).user = some u →
      ((serve host before).peers p).user ≠ some u →
      ∃ id sha1 login, input.event = .lookedUp id (.ok sha1) ∧
        (serve host before).logins id = some login ∧ login.peer = p ∧
        verify host sha1 ((serve host before).challengeOf login) login.response = true) ∧
    (∀ id sha1 login, input.event = .lookedUp id (.ok sha1) →
      (serve host before).logins id = some login →
      verify host sha1 ((serve host before).challengeOf login) login.response = true →
      ∃ random : Vector UInt8 64, (serve host before).challengeOf login = random.toList ∧
        Delivered host before (Stream.run (step host) .start before).2 login.peer
          ((serve host before).peers login.peer).rinfo random) := by
  refine ⟨fun p u hset hnew => ?_, fun id sha1 login _ hlogin _ => ?_⟩
  · rcases turn_user (serve_sound hauth before) (step_turn host _ input) hset with
      hold | ⟨id, sha1, login, hevent, hlogin, hpeer, -, hverify⟩
    · exact absurd hold hnew
    · exact ⟨id, sha1, login, hevent, hlogin, hpeer, hverify⟩
  · have hfresh : Fresh host before (Stream.run (step host) .start before).2 (serve host before) := by
      rw [hsplit] at hmeets
      exact serve_fresh hauth hmeets.left
    obtain ⟨challenge, hsome, hmarker⟩ := hfresh.logins id login hlogin
    refine ⟨challenge.random, ?_, hfresh.delivered login.peer challenge hsome hmarker⟩
    rw [Server.challengeOf, hsome]

theorem verified_against_sent_alice :
    ∃ random : Vector UInt8 64, (serve plainHost ((loginOf alice).take 3)).challengeOf
        ⟨0, "a", List.replicate 20 9⟩ = random.toList ∧
      Delivered plainHost ((loginOf alice).take 3)
        (Stream.run (step plainHost) .start ((loginOf alice).take 3)).2 0
        ((serve plainHost ((loginOf alice).take 3)).peers 0).rinfo random :=
  (verified_against_sent plainHost rfl (loginOf alice) (by decide) ((loginOf alice).take 3)
    ⟨.lookedUp 0 (.ok []), calmEnv⟩ [] rfl).2 0 [] ⟨0, "a", List.replicate 20 9⟩ rfl
    (by decide) (by decide)

/-- The response comes while `randomFill` is still under way: it is right for a challenge
of zeros, which nobody was sent. -/
def earlyResponse : List Input :=
  [datagram bob [0], datagram bob (4 :: List.replicate 20 0 ++ [98]),
    ⟨.lookedUp 0 (.ok []), calmEnv⟩]

theorem blank_challenge_admits :
    ((serve plainHost earlyResponse).peers 0).user = some ⟨"b"⟩ ∧
    (Stream.run (step plainHost) .start earlyResponse).2 = [] ∧
    (serve plainHost earlyResponse).filling 0 = true := by
  decide

end Grid0Relay.Forwarder
