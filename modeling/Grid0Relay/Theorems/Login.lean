import Grid0Relay.Logic.ForwarderRuns
import Grid0Relay.Logic.LanClient

/-!
# A client logs in

The client of the relay and the forwarding server are written in two languages. What the one
makes of a challenge, the other takes for the right answer just when both have the same password
hash.
-/

namespace Grid0Relay.Forwarder

open Lib Lib.Exec

variable {host : Host} {s : Server} {env : Env} {rinfo : AddressInfo} {item : CacheItem}

/-- The server behind an answer to its challenge. -/
theorem step_answer (hauth : host.authProvider = true) (hcurrent : s.current rinfo = some item)
    (hchallenge : (s.peers item.peer).challenge.isSome = true) (hlog : s.loggedIn rinfo = false)
    {payload : Bytes} (hlen : 20 < payload.length) :
    (step host s ⟨.message (ForwarderType.authMe.code :: payload) rinfo, env⟩).1 =
      { s with
        manager := s.manager.set (addr2str rinfo) { item with expireAt := env.now + timeout }
        logins := Function.update s.logins s.begun
          (some ⟨item.peer, host.decode (payload.drop 20), payload.take 20⟩)
        begun := s.begun + 1 } := by
  have hhead : (parseHead (ForwarderType.authMe.code :: payload)).type = some .authMe := by
    rw [parseHead, show Bytes.byte (ForwarderType.authMe.code :: payload) 0 = 4 from rfl]
    decide
  have hping : ¬ isPing (ForwarderType.authMe.code :: payload) := fun h => by
    rw [isPing, hhead] at h
    cases h.1
  have hpeer : s.peerFor rinfo = item.peer := by rw [Server.peerFor, hcurrent]
  have htouched : s.touched env.now rinfo = { s with
      manager := s.manager.set (addr2str rinfo) { item with expireAt := env.now + timeout } } := by
    rw [Server.touched, hcurrent]
  simp only [step, handle]
  rw [onMessage_eq, if_neg (by simp), if_neg hping, if_pos (by rw [hauth, hlog]; rfl), hhead, hpeer,
    htouched, onNeedAuth, if_pos rfl, onLogin, bind_ok (getServer_apply _),
    if_pos (by rw [hauth, hchallenge]; rfl), List.drop_succ_cons, List.drop_zero,
    if_neg (Nat.not_le.mpr hlen)]
  rfl

/-- The server when the password of a login is found. -/
theorem step_found {id : Nat} {login : Login} (hlogin : s.logins id = some login) (sha1 : Bytes) :
    (step host s ⟨.lookedUp id (.ok sha1), env⟩).1 =
      if verify host sha1 (s.challengeOf login) login.response = true then
        (s.settled id).setUser login.peer ⟨login.username⟩
      else s.settled id := by
  simp only [step, handle, resume]
  rw [bind_ok (getServer_apply _)]
  simp only [hlogin]
  rw [bind_ok (modifyServer_apply _ _)]
  change (after (onVerdict env login
    (.ok (verify host sha1 (s.challengeOf login) login.response)) ⟨s.settled id, []⟩)).server = _
  cases verify host sha1 (s.challengeOf login) login.response with
  | true => rfl
  | false => exact (@onVerdict_control env login (.ok false) (by simp) _).server

end Grid0Relay.Forwarder

namespace Grid0Relay.LanClient

open Lib Lib.Exec

/-- The client's answer to a challenge. -/
theorem onRecv_challenge {env : Env} {c : Client} {username : Bytes}
    (hsends : ∀ n, env.udpSend n = 0) (hname : c.username = some username)
    (hroom : 20 + username.length < 65536) (random : Bytes) :
    ∃ c', lanClientOnRecv env (ClientType.authMe.code :: 0 :: random) c = .ok () c' ∧
      newlySent c c' = [ClientType.authMe.code :: (env.sha1 (c.key ++ random) ++ username)] := by
  refine ⟨(c.countDownload (ClientType.authMe.code :: 0 :: random)).upload env
    (ClientType.authMe.code :: (env.sha1 (c.key ++ random) ++ username)), ?_, ?_⟩
  · rw [lanClientOnRecv, if_neg (by simp), bind_ok (modify_apply _ c), ofCode_code]
    change lanClientProcessAuthMe env (0 :: random) _ = _
    rw [lanClientProcessAuthMe, bind_ok (get_apply _)]
    simp only [Client.countDownload, hname]
    have hzero : ¬ Bytes.byte (0 :: random) 0 ≠ 0 := not_not.mpr rfl
    have hshort : username.length % 65536 = username.length := Nat.mod_eq_of_lt (by omega)
    rw [if_neg (by simp), if_neg hzero, hshort, List.take_length, if_neg (by omega),
      bind_ok (lanClientSend_one fun h => by cases h)]
    rfl
  · simp [newlySent, Client.upload, Client.countDownload, hsends]

/-- **Logging in.** A client answers a challenge, the server looks the name up, and then the
address is logged in just when the hash found gives the same answer as the client's. -/
theorem login_iff {host : Forwarder.Host} {s : Forwarder.Server} {rinfo : Forwarder.AddressInfo}
    {item : Forwarder.CacheItem} {random : Vector UInt8 64} (hauth : host.authProvider = true)
    (hcurrent : s.current rinfo = some item) (hlog : s.loggedIn rinfo = false)
    (hchallenge : (s.peers item.peer).challenge = some ⟨0, random⟩)
    {env : Env} {c : Client} {username : Bytes} (hsends : ∀ n, env.udpSend n = 0)
    (hname : c.username = some username) (hne : username ≠ [])
    (hroom : 20 + username.length < 65536) (hsha1 : env.sha1 = host.sha1)
    (hlen : ∀ b, (host.sha1 b).length = 20) (first second : Forwarder.Env) (found : Bytes) :
    ∃ c' reply,
      lanClientOnRecv env (ClientType.authMe.code :: 0 :: random.toList) c = .ok () c' ∧
      newlySent c c' = [reply] ∧
      ((Forwarder.step host (Forwarder.step host s ⟨.message reply rinfo, first⟩).1
          ⟨.lookedUp s.begun (.ok found), second⟩).1.loggedIn rinfo = true ↔
        host.sha1 (found ++ random.toList) = host.sha1 (c.key ++ random.toList)) := by
  obtain ⟨c', hrecv, hsent⟩ := onRecv_challenge hsends hname hroom random.toList
  refine ⟨c', _, hrecv, hsent, ?_⟩
  rw [hsha1]
  have hanswer : 20 < (host.sha1 (c.key ++ random.toList) ++ username).length := by
    rw [List.length_append, hlen]
    have := List.length_pos_of_ne_nil hne
    omega
  rw [show ClientType.authMe.code = Forwarder.ForwarderType.authMe.code from rfl,
    Forwarder.step_answer hauth hcurrent (by rw [hchallenge]; rfl) hlog hanswer,
    Forwarder.step_found (Function.update_self _ _ _)]
  have hverify : Forwarder.verify host found random.toList
      ((host.sha1 (c.key ++ random.toList) ++ username).take 20) = true ↔
      host.sha1 (found ++ random.toList) = host.sha1 (c.key ++ random.toList) := by
    rw [List.take_left' (hlen _), Forwarder.verify, beq_iff_eq]
  rw [← hverify]
  -- the peer still has its challenge, and the address its peer
  simp only [Forwarder.Server.challengeOf, hchallenge]
  have hget : ∀ i : Forwarder.CacheItem,
      (s.manager.set (Forwarder.addr2str rinfo) i).get? (Forwarder.addr2str rinfo) = some i :=
    fun i => OrderedMap.get?_set_self _ _ _
  have huser : (s.peers item.peer).user.isSome = false := by
    rw [← hlog, Forwarder.Server.loggedIn, hcurrent]
  split
  · rename_i hright
    refine iff_of_true ?_ hright
    simp [Forwarder.Server.loggedIn, Forwarder.Server.current, Forwarder.Server.setUser,
      Forwarder.Server.setPeer, Forwarder.Server.settled, hget]
  · rename_i hwrong
    refine iff_of_false ?_ hwrong
    simp [Forwarder.Server.loggedIn, Forwarder.Server.current, Forwarder.Server.settled, hget, huser]

/-- A server that has sent its first peer a challenge, and a client with a name. -/
theorem login_iff_right :
    ∃ (s : Forwarder.Server) (c' : Client) (reply : Bytes),
      newlySent { freshClient with username := some [97] } c' = [reply] ∧
      (Forwarder.step Forwarder.plainHost (Forwarder.step Forwarder.plainHost s
          ⟨.message reply Forwarder.alice, Forwarder.calmEnv⟩).1
        ⟨.lookedUp s.begun (.ok []), Forwarder.calmEnv⟩).1.loggedIn Forwarder.alice = true := by
  obtain ⟨c', reply, -, hsent, hiff⟩ := @login_iff Forwarder.plainHost
    ((Forwarder.Server.start.touched 0 Forwarder.alice).setChallenge 0
      fun _ => some ⟨0, Vector.replicate 64 9⟩)
    Forwarder.alice ⟨30000, 0⟩ (Vector.replicate 64 9) rfl (by decide) (by decide) rfl
    ⟨fun _ => 0, Forwarder.plainHost.sha1⟩ { freshClient with username := some [97] } [97]
    (fun _ => rfl) rfl (by decide) (by decide) rfl (fun b => by simp [Forwarder.plainHost])
    Forwarder.calmEnv Forwarder.calmEnv []
  exact ⟨_, c', reply, hsent, hiff.mpr rfl⟩

end Grid0Relay.LanClient
