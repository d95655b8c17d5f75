import Grid0Relay.Logic.ForwarderRoutes

/-!
# Who gets what the forwarding server sends

A routed datagram goes to the peer its destination was last seen behind. If there is
none it goes to every address in the table, and the table has every address that ever
sent a byte. When all of those have logged in, routed datagrams reach only peers that
have. When cached routes lead to addresses that are still logged in as well, what an
address gets while it is not logged in does not depend on what the others send.
-/

namespace Grid0Relay.Forwarder

open Lib Lib.Exec Lib.Stream

/-- Where a message has its addresses, if it is one that `onPacket` routes. -/
def layoutOf (msg : Bytes) : Option Layout :=
  match (parseHead msg).type with
  | some .ipv4 => some ipv4Layout
  | some .ipv4Frag => some ipv4FragLayout
  | _ => none

theorem layoutOf_type {msg : Bytes} {layout : Layout}
    (hlayout : layout = ipv4Layout ∨ layout = ipv4FragLayout)
    (htype : (parseHead msg).type = some layout.type) : layoutOf msg = some layout := by
  unfold layoutOf
  rcases hlayout with rfl | rfl <;> rw [htype] <;> rfl

/-- The message is long enough to be routed, to an address its sender does not claim. -/
def Leaves (layout : Layout) (msg : Bytes) : Prop :=
  20 < (msg.drop 1).length ∧
    readInt32BE (msg.drop 1) layout.dst ≠ readInt32BE (msg.drop 1) layout.src
deriving Decidable

/-- A datagram on its way to someone else. -/
structure Outgoing where
  sender : AddressInfo
  dst : Int

/-- The datagram an event has the server route. -/
def Server.outgoing (s : Server) : Event → Option Outgoing
  | .message msg rinfo =>
    match layoutOf msg with
    | some layout =>
      if s.loggedIn rinfo = true ∧ Leaves layout msg then
        some ⟨rinfo, readInt32BE (msg.drop 1) layout.dst⟩
      else none
    | none => none
  | _ => none

theorem outgoing_eq {s : Server} {msg : Bytes} {rinfo : AddressInfo} {layout : Layout}
    (hlog : s.loggedIn rinfo = true) (hlayout : layoutOf msg = some layout)
    (hleaves : Leaves layout msg) :
    s.outgoing (.message msg rinfo) = some ⟨rinfo, readInt32BE (msg.drop 1) layout.dst⟩ := by
  simp only [Server.outgoing, hlayout]
  exact if_pos ⟨hlog, hleaves⟩

/-- `sendBroadcast` is called only when all others in the table have logged in. -/
def FloodsPeers (s : Server) (input : Input) : Prop :=
  match s.outgoing input.event with
  | none => True
  | some o => s.ipCache.get? o.dst = none → ∀ e ∈ s.manager.entries, e.1 ≠ addr2str o.sender →
      (s.peers e.2.peer).user.isSome = true

/-- A cached route is used only when the address it leads to is still logged in. -/
def RoutesPeers (s : Server) (input : Input) : Prop :=
  match s.outgoing input.event with
  | none => True
  | some o =>
    match s.ipCache.get? o.dst with
    | none => True
    | some item => s.loggedIn (s.peers item.peer).rinfo = true

instance (s : Server) (input : Input) : Decidable (FloodsPeers s input) := by
  unfold FloodsPeers
  split <;> infer_instance

instance (s : Server) (input : Input) : Decidable (RoutesPeers s input) := by
  unfold RoutesPeers
  split
  · infer_instance
  · split <;> infer_instance

/-! ## The targets of a routed datagram -/

section Targets

variable {s : Server} {rinfo : AddressInfo}

theorem touched_loggedIn (h : s.loggedIn rinfo = true) (now : Nat) :
    (s.touched now rinfo).peers = s.peers ∧ ∀ e ∈ (s.touched now rinfo).manager.entries,
      e.1 ≠ addr2str rinfo → e ∈ s.manager.entries := by
  unfold Server.loggedIn at h
  unfold Server.touched
  cases hcurrent : s.current rinfo with
  | none =>
    rw [hcurrent] at h
    cases h
  | some item =>
    refine ⟨rfl, fun e he hne => ?_⟩
    rcases OrderedMap.mem_set.mp he with ⟨hkey, -⟩ | ⟨-, hold⟩
    · exact absurd hkey hne
    · exact hold

theorem loggedIn_peerFor (hsound : Sound s) (h : s.loggedIn rinfo = true) :
    (s.peers (s.peerFor rinfo)).user.isSome = true ∧
      addr2str (s.peers (s.peerFor rinfo)).rinfo = addr2str rinfo := by
  unfold Server.loggedIn at h
  unfold Server.peerFor
  cases hcurrent : s.current rinfo with
  | none =>
    rw [hcurrent] at h
    cases h
  | some item =>
    rw [hcurrent] at h
    exact ⟨h, (hsound.current_lt hcurrent).2⟩

theorem loggedIn_congr {rinfo' : AddressInfo} (h : addr2str rinfo = addr2str rinfo') :
    s.loggedIn rinfo = s.loggedIn rinfo' := by
  unfold Server.loggedIn Server.current
  rw [h]

/-- An entry of the table is the entry of its peer's address. -/
theorem loggedIn_entry (hsound : Sound s) {e : String × CacheItem} (he : e ∈ s.manager.entries)
    (huser : (s.peers e.2.peer).user.isSome = true) : s.loggedIn (s.peers e.2.peer).rinfo = true := by
  have hcurrent : s.current (s.peers e.2.peer).rinfo = some e.2 := by
    rw [Server.current, (hsound.known e.1 e.2 he).2]
    exact OrderedMap.get?_eq_some.mpr he
  unfold Server.loggedIn
  rw [hcurrent]
  exact huser

/-- A target is the sender, or leads out of the table or the routes as they were. -/
theorem targets_cases (hsound : Sound s) (h : s.loggedIn rinfo = true) (layout : Layout)
    (now later : Nat) (payload : Bytes) {q : Nat}
    (hq : q ∈ ((s.touched now rinfo).routed layout later (s.peerFor rinfo) payload).targets layout
      (s.peerFor rinfo) payload) :
    q = s.peerFor rinfo ∨
    (readInt32BE payload layout.dst ≠ readInt32BE payload layout.src ∧
      ((∃ item, s.ipCache.get? (readInt32BE payload layout.dst) = some item ∧ item.peer = q) ∨
      (s.ipCache.get? (readInt32BE payload layout.dst) = none ∧
        ∃ e ∈ s.manager.entries, e.1 ≠ addr2str rinfo ∧ e.2.peer = q))) := by
  obtain ⟨hpeers, hentries⟩ := touched_loggedIn h now
  by_cases hself : readInt32BE payload layout.dst = readInt32BE payload layout.src
  · left
    have hget : ((s.touched now rinfo).routed layout later (s.peerFor rinfo) payload).ipCache.get?
        (readInt32BE payload layout.dst) = some ⟨later + timeout, s.peerFor rinfo⟩ := by
      rw [hself]
      exact OrderedMap.get?_set_self _ _ _
    rw [Server.targets, hget] at hq
    exact List.mem_singleton.mp hq
  · refine Or.inr ⟨hself, ?_⟩
    have hget : ((s.touched now rinfo).routed layout later (s.peerFor rinfo) payload).ipCache.get?
        (readInt32BE payload layout.dst) = s.ipCache.get? (readInt32BE payload layout.dst) := by
      rw [← touched_ipCache s now rinfo]
      exact OrderedMap.get?_set_of_ne _ hself _
    rw [Server.targets, hget] at hq
    cases hroute : s.ipCache.get? (readInt32BE payload layout.dst) with
    | some item =>
      rw [hroute] at hq
      exact Or.inl ⟨item, rfl, (List.mem_singleton.mp hq).symm⟩
    | none =>
      rw [hroute] at hq
      obtain ⟨e, he, heq⟩ := List.mem_map.mp hq
      obtain ⟨hmem, hkey⟩ := List.mem_filter.mp he
      have hne : e.1 ≠ addr2str rinfo := by
        rw [← (loggedIn_peerFor hsound h).2, ← hpeers]
        exact of_decide_eq_true hkey
      exact Or.inr ⟨rfl, e, hentries e hmem hne, hne, heq⟩

end Targets

/-! ## One turn -/

section Turn

variable {host : Host} {s s' : Server} {event : Event} {env : Env} {acts : List Action}

/-- Every routed datagram of a turn goes to a target of a message that was routed. -/
theorem turn_routed (hauth : host.authProvider = true) (h : Turn host s event env s' acts)
    {addr : AddressInfo} {sent : Bytes} (hmem : .send addr sent ∈ acts)
    (hrouted : isRouted sent = true) :
    ∃ msg rinfo layout q, event = .message msg rinfo ∧ s.loggedIn rinfo = true ∧
      layoutOf msg = some layout ∧ 20 < (msg.drop 1).length ∧ addr = (s.peers q).rinfo ∧
      q ∈ ((s.touched env.now rinfo).routed layout env.later (s.peerFor rinfo) (msg.drop 1)).targets
        layout (s.peerFor rinfo) (msg.drop 1) := by
  have hcontrol : (∀ a ∈ acts, Control s a) → False := by
    intro hall
    have hplain : isRouted sent = false := hall _ hmem
    rw [hrouted] at hplain
    cases hplain
  cases h with
  | idle _ hall | kept hall => exact (hcontrol hall).elim
  | ignored _ _ _ => cases List.mem_singleton.mp hmem
  | @routed msg rinfo env layout acts hlog hlayout htype hlen hall =>
    rcases List.mem_cons.mp hmem with heq | hmem
    · cases heq
    · obtain ⟨q, hq, hsend⟩ := hall _ hmem
      rw [(touched_loggedIn (hlog hauth) env.now).1] at hsend
      exact ⟨msg, rinfo, layout, q, rfl, hlog hauth, layoutOf_type hlayout htype, hlen,
        (Action.send.inj hsend).1, hq⟩
  | begun challenge _ _ _ _ _ => cases hmem
  | published _ _ _ => cases hmem
  | admitted _ _ _ _ => cases hmem
  | dismissed _ _ _ _ hall => exact (hcontrol hall).elim
  | scribbled _ => cases hmem
  | filled _ _ hall => exact (hcontrol hall).elim
  | fillFailed _ => cases hmem
  | sendFailed => cases hmem
  | interval => cases hmem

theorem step_routed (hauth : host.authProvider = true) (hsound : Sound s) {input : Input}
    (hfloods : FloodsPeers s input) {addr : AddressInfo} {sent : Bytes}
    (hmem : .send addr sent ∈ (step host s input).2) (hrouted : isRouted sent = true) :
    ∃ p, (s.peers p).rinfo = addr ∧ (s.peers p).user.isSome = true := by
  obtain ⟨msg, rinfo, layout, q, hevent, hlog, hlayout, hlen, haddr, hq⟩ :=
    turn_routed hauth (step_turn host s input) hmem hrouted
  refine ⟨q, haddr.symm, ?_⟩
  rcases targets_cases hsound hlog layout _ _ _ hq with
    rfl | ⟨hself, ⟨item, hroute, rfl⟩ | ⟨hroute, e, he, hne, rfl⟩⟩
  · exact (loggedIn_peerFor hsound hlog).1
  · exact (hsound.cached _ item (OrderedMap.get?_eq_some.mp hroute)).2
  · rw [FloodsPeers, hevent, outgoing_eq hlog hlayout ⟨hlen, hself⟩] at hfloods
    exact hfloods hroute e he hne

end Turn

/-! ## Two runs -/

/-- What reaches an address. -/
def receivedBy (a : AddressInfo) (acts : List Action) : List Bytes :=
  acts.filterMap fun
    | .send addr msg => if addr = a then some msg else none
    | .forward _ _ _ => none

theorem receivedBy_eq_nil {a : AddressInfo} {acts : List Action}
    (h : ∀ addr msg, .send addr msg ∈ acts → addr ≠ a) : receivedBy a acts = [] := by
  rw [receivedBy, List.filterMap_eq_nil_iff]
  intro act hact
  cases act with
  | forward type p payload => rfl
  | send addr msg => exact if_neg (h addr msg hact)

/-- What an address gets turn by turn while it is not logged in. -/
def seen (host : Host) (a : AddressInfo) : Server → List Input → List (List Bytes)
  | _, [] => []
  | s, input :: rest =>
    (if s.loggedIn a then [] else receivedBy a (step host s input).2) ::
      seen host a (step host s input).1 rest

/-- The same input, but for the payload of an address that is logged in. -/
def Varies (s : Server) (i j : Input) : Prop :=
  i = j ∨ ∃ head payload payload' rinfo env, i = ⟨.message (head :: payload) rinfo, env⟩ ∧
    j = ⟨.message (head :: payload') rinfo, env⟩ ∧ s.loggedIn rinfo = true

/-- The inputs vary at every turn of the first run. -/
def VariesAlong (host : Host) : Server → List Input → List Input → Prop
  | _, [], [] => True
  | s, i :: is, j :: js => Varies s i j ∧ VariesAlong host (step host s i).1 is js
  | _, _, _ => False

section TwoRuns

variable {host : Host} {s t : Server}

theorem onPacket_result (env : Env) (p : Nat) (msg payload : Bytes) (t : Server) :
    (after (onPacket env p (parseHead msg).type payload ⟨t, []⟩)).server.unrouted = t.unrouted ∧
    ∀ addr sent, .send addr sent ∈
        (after (onPacket env p (parseHead msg).type payload ⟨t, []⟩)).actions →
      ∃ layout, layoutOf msg = some layout ∧ 20 < payload.length ∧
        ∃ q ∈ (t.routed layout env.later p payload).targets layout p payload,
          addr = (t.peers q).rinfo := by
  have hrouted : ∀ layout, layoutOf msg = some layout →
      (after (onRouted layout env p payload ⟨t, []⟩)).server.unrouted = t.unrouted ∧
      ∀ addr sent, .send addr sent ∈ (after (onRouted layout env p payload ⟨t, []⟩)).actions →
        ∃ layout, layoutOf msg = some layout ∧ 20 < payload.length ∧
          ∃ q ∈ (t.routed layout env.later p payload).targets layout p payload,
            addr = (t.peers q).rinfo := by
    intro layout hlayout
    obtain ⟨acts, hresult, hall⟩ := onRouted_result layout env p payload t
    rw [hresult]
    refine ⟨by dsimp only; split <;> rfl, fun addr sent hmem => ?_⟩
    rcases List.mem_cons.mp hmem with heq | hmem
    · cases heq
    · obtain ⟨hlen, q, hq, hsend⟩ := hall _ hmem
      exact ⟨layout, hlayout, hlen, q, hq, (Action.send.inj hsend).1⟩
  have hnone : (after ((pure () : ServerM Unit) ⟨t, []⟩)).server.unrouted = t.unrouted ∧
      ∀ addr sent, .send addr sent ∈ (after ((pure () : ServerM Unit) ⟨t, []⟩)).actions →
        ∃ layout, layoutOf msg = some layout ∧ 20 < payload.length ∧
          ∃ q ∈ (t.routed layout env.later p payload).targets layout p payload,
            addr = (t.peers q).rinfo := ⟨rfl, fun _ _ hmem => by cases hmem⟩
  cases htype : (parseHead msg).type with
  | none => exact hnone
  | some type =>
    cases type with
    | ipv4 => exact hrouted ipv4Layout (layoutOf_type (Or.inl rfl) htype)
    | ipv4Frag => exact hrouted ipv4FragLayout (layoutOf_type (Or.inr rfl) htype)
    | keepalive => exact hnone
    | ping => exact hnone
    | authMe => exact hnone
    | info => exact hnone

/-- A message of an address that is logged in: nothing is sent to one that is not. -/
theorem step_loggedIn (host : Host) (hsound : Sound s) {head : UInt8} {payload : Bytes} {rinfo : AddressInfo}
    {env : Env} (hlog : s.loggedIn rinfo = true)
    (hfloods : FloodsPeers s ⟨.message (head :: payload) rinfo, env⟩)
    (hroutes : RoutesPeers s ⟨.message (head :: payload) rinfo, env⟩) :
    (step host s ⟨.message (head :: payload) rinfo, env⟩).1.unrouted =
        (if isPing [head] then s else s.touched env.now rinfo).unrouted ∧
    ∀ addr sent, .send addr sent ∈ (step host s ⟨.message (head :: payload) rinfo, env⟩).2 →
      s.loggedIn addr = true := by
  have hstep : step host s ⟨.message (head :: payload) rinfo, env⟩ =
      ((after (onMessage host env (head :: payload) rinfo ⟨s, []⟩)).server,
        (after (onMessage host env (head :: payload) rinfo ⟨s, []⟩)).actions) := rfl
  rw [hstep, onMessage_eq, if_neg (by simp)]
  by_cases hping : isPing (head :: payload)
  · have hsame : isPing [head] := hping
    rw [if_pos hping, if_pos hsame]
    obtain ⟨hserver, hacts⟩ :=
      (sendToRaw_adds env rinfo ((head :: payload).take 4) ⟨s, []⟩).from_nil
    refine ⟨congrArg Server.unrouted hserver, fun addr sent hmem => ?_⟩
    obtain ⟨rfl, -⟩ := Action.send.inj (hacts _ hmem)
    exact hlog
  · have hsame : ¬ isPing [head] := hping
    have hknown : ¬ (host.authProvider && !s.loggedIn rinfo) = true := by simp [hlog]
    rw [if_neg hping, if_neg hsame, if_neg hknown]
    obtain ⟨hserver, hsends⟩ := onPacket_result env (s.peerFor rinfo) (head :: payload)
      ((head :: payload).drop 1) (s.touched env.now rinfo)
    refine ⟨hserver, fun addr sent hmem => ?_⟩
    obtain ⟨layout, hlayout, hlen, q, hq, rfl⟩ := hsends addr sent hmem
    rw [(touched_loggedIn hlog env.now).1]
    rcases targets_cases hsound hlog layout _ _ _ hq with
      rfl | ⟨hself, ⟨item, hroute, rfl⟩ | ⟨hroute, e, he, hne, rfl⟩⟩
    · rw [loggedIn_congr (loggedIn_peerFor hsound hlog).2]
      exact hlog
    · rw [RoutesPeers, outgoing_eq hlog hlayout ⟨hlen, hself⟩] at hroutes
      dsimp only at hroutes
      rw [hroute] at hroutes
      exact hroutes
    · rw [FloodsPeers, outgoing_eq hlog hlayout ⟨hlen, hself⟩] at hfloods
      exact loggedIn_entry hsound he (hfloods hroute e he hne)

theorem loggedIn_unrouted (hsame : s.unrouted = t.unrouted) (rinfo : AddressInfo) :
    s.loggedIn rinfo = t.loggedIn rinfo := by
  have h := congrArg (fun x => Server.loggedIn x rinfo) hsame
  exact h

theorem peerFor_unrouted (hsame : s.unrouted = t.unrouted) (rinfo : AddressInfo) :
    s.peerFor rinfo = t.peerFor rinfo := by
  have h := congrArg (fun x => Server.peerFor x rinfo) hsame
  exact h

theorem touched_unrouted (s : Server) (now : Nat) (rinfo : AddressInfo) :
    (s.touched now rinfo).unrouted = (s.unrouted).touched now rinfo := by
  have hcurrent : s.unrouted.current rinfo = s.current rinfo := rfl
  unfold Server.touched
  rw [hcurrent]
  cases s.current rinfo <;> rfl

/-- A message of an address that is not logged in does not get as far as the routes. -/
theorem unrouted_message (hauth : host.authProvider = true) {env : Env} (msg : Bytes)
    {rinfo : AddressInfo} (hsame : s.unrouted = t.unrouted)
    (hlog : msg ≠ [] → s.loggedIn rinfo = false) :
    Alike SameButRoutes (onMessage host env msg rinfo ⟨s, []⟩)
      (onMessage host env msg rinfo ⟨t, []⟩) := by
  rw [onMessage_eq, onMessage_eq]
  split
  case isTrue => exact .ok () ⟨hsame, rfl⟩
  split
  case isTrue => exact unrouted_sendToRaw env _ _ _ _ ⟨hsame, rfl⟩
  have hneed := hlog (by rintro rfl; contradiction)
  dsimp only
  rw [← loggedIn_unrouted hsame, ← peerFor_unrouted hsame, hauth, hneed]
  refine unrouted_onNeedAuth host env _ _ _ _ _ ⟨?_, rfl⟩
  rw [touched_unrouted, hsame, ← touched_unrouted]

/-- Turns that no routed datagram is in. -/
theorem step_unrouted (hauth : host.authProvider = true) (hsame : s.unrouted = t.unrouted)
    {input : Input} (h : ∀ msg rinfo, input.event = .message msg rinfo → msg ≠ [] →
      s.loggedIn rinfo = false) :
    (step host s input).1.unrouted = (step host t input).1.unrouted ∧
      (step host s input).2 = (step host t input).2 := by
  obtain ⟨event, env⟩ := input
  have halike : Alike SameButRoutes (handle host env event ⟨s, []⟩) (handle host env event ⟨t, []⟩) := by
    by_cases hevent : ∃ msg rinfo, event = .message msg rinfo
    · obtain ⟨msg, rinfo, rfl⟩ := hevent
      exact unrouted_message hauth msg hsame (h msg rinfo rfl)
    · refine unrouted_handle host env (fun msg rinfo heq => hevent ⟨msg, rinfo, heq⟩) _ _ ?_
      exact ⟨hsame, rfl⟩
  have hafter := halike.after
  exact ⟨hafter.server, hafter.actions⟩

/-- Two turns whose inputs vary in a payload only. -/
theorem step_varies (hauth : host.authProvider = true) (hsound : Sound s) (hsound' : Sound t)
    (hsame : s.unrouted = t.unrouted) {i j : Input} (hvaries : Varies s i j)
    (hs : FloodsPeers s i ∧ RoutesPeers s i) (ht : FloodsPeers t j ∧ RoutesPeers t j) :
    (step host s i).1.unrouted = (step host t j).1.unrouted ∧
    ∀ a, s.loggedIn a = false → receivedBy a (step host s i).2 = receivedBy a (step host t j).2 := by
  have hlogs := loggedIn_unrouted hsame
  -- a message of an address that is logged in, with any two payloads
  have hmessage : ∀ head payload payload' rinfo env, s.loggedIn rinfo = true →
      i = ⟨.message (head :: payload) rinfo, env⟩ → j = ⟨.message (head :: payload') rinfo, env⟩ →
      (step host s i).1.unrouted = (step host t j).1.unrouted ∧ ∀ a, s.loggedIn a = false →
        receivedBy a (step host s i).2 = receivedBy a (step host t j).2 := by
    rintro head payload payload' rinfo env hlog rfl rfl
    obtain ⟨hserver, hsends⟩ := step_loggedIn host hsound hlog hs.1 hs.2
    obtain ⟨hserver', hsends'⟩ := step_loggedIn host hsound' (hlogs rinfo ▸ hlog) ht.1 ht.2
    refine ⟨?_, fun a ha => ?_⟩
    · rw [hserver, hserver']
      split
      · exact hsame
      · rw [touched_unrouted, hsame, ← touched_unrouted]
    · rw [receivedBy_eq_nil, receivedBy_eq_nil]
      · rintro addr msg hmem rfl
        rw [hlogs, hsends' addr msg hmem] at ha
        cases ha
      · rintro addr msg hmem rfl
        rw [hsends addr msg hmem] at ha
        cases ha
  rcases hvaries with rfl | ⟨head, payload, payload', rinfo, env, hi, hj, hlog⟩
  · by_cases hrouted : ∃ head payload rinfo, i.event = .message (head :: payload) rinfo ∧
        s.loggedIn rinfo = true
    · obtain ⟨head, payload, rinfo, hevent, hlog⟩ := hrouted
      obtain ⟨event, env⟩ := i
      obtain rfl : event = .message (head :: payload) rinfo := hevent
      exact hmessage head payload payload rinfo env hlog rfl rfl
    · have hnever : ∀ msg rinfo, i.event = .message msg rinfo → msg ≠ [] →
          s.loggedIn rinfo = false := by
        intro msg rinfo hevent hmsg
        obtain ⟨head, payload, rfl⟩ := List.exists_cons_of_ne_nil hmsg
        by_contra hlog
        exact hrouted ⟨head, payload, rinfo, hevent, by simpa using hlog⟩
      obtain ⟨hserver, hacts⟩ := step_unrouted hauth hsame hnever
      exact ⟨hserver, fun a _ => congrArg (receivedBy a) hacts⟩
  · exact hmessage head payload payload' rinfo env hlog hi hj

/-- What an address sees while it is not logged in, over two runs that vary in the
payloads of those who are. -/
theorem seen_varies (hauth : host.authProvider = true) (a : AddressInfo)
    {inputs inputs' : List Input} (hsound : Sound s) (hsound' : Sound t)
    (hsame : s.unrouted = t.unrouted) (hvaries : VariesAlong host s inputs inputs')
    (hs : Meets (step host) (fun s i => FloodsPeers s i ∧ RoutesPeers s i) s inputs)
    (ht : Meets (step host) (fun s i => FloodsPeers s i ∧ RoutesPeers s i) t inputs') :
    seen host a s inputs = seen host a t inputs' := by
  induction inputs generalizing s t inputs' with
  | nil =>
    cases inputs' with
    | nil => rfl
    | cons j js => exact hvaries.elim
  | cons i is ih =>
    cases inputs' with
    | nil => exact hvaries.elim
    | cons j js =>
      obtain ⟨hserver, hacts⟩ := step_varies hauth hsound hsound' hsame hvaries.1 hs.1 ht.1
      have hrest := ih (turn_sound hauth hsound (step_turn host s i))
        (turn_sound hauth hsound' (step_turn host t j)) hserver hvaries.2 hs.2 ht.2
      have hfirst : (if s.loggedIn a then [] else receivedBy a (step host s i).2) =
          if t.loggedIn a then [] else receivedBy a (step host t j).2 := by
        rw [← loggedIn_unrouted hsame a]
        by_cases hlog : s.loggedIn a = true
        · rw [if_pos hlog, if_pos hlog]
        · rw [if_neg hlog, if_neg hlog]
          exact hacts a (by simpa using hlog)
      rw [seen, seen, hfirst, hrest]

end TwoRuns

/-- With an `AuthProvider`: in a run whose broadcasts find only peers that have logged
in, every `Ipv4` and `Ipv4Frag` datagram goes to a peer that has. If its cached routes
lead to addresses that are still logged in too, what an address gets while it is not
logged in does not depend on the payloads of those who are. -/
theorem routed_to_logged_in (host : Host) (hauth : host.authProvider = true)
    (inputs : List Input) :
    (Meets (step host) FloodsPeers .start inputs →
      ∀ before input rest, inputs = before ++ input :: rest → ∀ addr sent,
        .send addr sent ∈ (step host (serve host before) input).2 → isRouted sent = true →
        ∃ p, ((serve host before).peers p).rinfo = addr ∧
          ((serve host before).peers p).user.isSome = true) ∧
    (∀ inputs', VariesAlong host .start inputs inputs' →
      Meets (step host) (fun s i => FloodsPeers s i ∧ RoutesPeers s i) .start inputs →
      Meets (step host) (fun s i => FloodsPeers s i ∧ RoutesPeers s i) .start inputs' →
      ∀ a, seen host a .start inputs = seen host a .start inputs') := by
  refine ⟨fun hmeets before input rest hsplit addr sent hmem hrouted => ?_,
    fun inputs' hvaries hs ht a => seen_varies hauth a .start .start rfl hvaries hs ht⟩
  have hfloods : FloodsPeers (serve host before) input := by
    rw [hsplit] at hmeets
    rw [serve]
    exact hmeets.at
  exact step_routed hauth (serve_sound hauth before) hfloods hmem hrouted

/-- One address logs in, another one gets its challenge, and the first one sends. -/
def besideStranger (content : UInt8) : List Input :=
  loginOf alice ++ [datagram bob [0], ⟨.filled 1 (Vector.replicate 64 7), calmEnv⟩,
    datagram alice (packetTo 5 content)]

theorem routed_to_logged_in_alice :
    (∃ p, ((serve plainHost ((besideStranger 1).take 6)).peers p).rinfo = alice ∧
      ((serve plainHost ((besideStranger 1).take 6)).peers p).user.isSome = true) ∧
    seen plainHost bob .start (besideStranger 1) = seen plainHost bob .start (besideStranger 2) := by
  have hsent : .send alice (packetTo 5 1) ∈ (step plainHost
      (serve plainHost ((besideStranger 1).take 6)) (datagram alice (packetTo 5 1))).2 := by
    decide
  have hvaries : VariesAlong plainHost .start (besideStranger 1) (besideStranger 2) := by
    refine ⟨Or.inl rfl, Or.inl rfl, Or.inl rfl, Or.inl rfl, Or.inl rfl, Or.inl rfl, Or.inr ?_,
      trivial⟩
    exact ⟨1, _, _, alice, calmEnv, rfl, rfl, by decide⟩
  exact ⟨(routed_to_logged_in plainHost rfl (besideStranger 1)).1 (by decide) _ _ [] rfl _ _
      hsent (by decide),
    (routed_to_logged_in plainHost rfl (besideStranger 1)).2 _ hvaries (by decide)
      (by decide) bob⟩

/-- A stranger that has sent one byte gets a copy of a packet whose destination nobody
has been seen behind. -/
theorem flood_reaches_stranger :
    .send bob (packetTo 6 1) ∈ (step plainHost
      (serve plainHost (loginOf alice ++ [datagram bob [0]])) (datagram alice (packetTo 6 1))).2 ∧
    isRouted (packetTo 6 1) = true ∧
    (∀ p < (serve plainHost (loginOf alice ++ [datagram bob [0]])).made,
      ((serve plainHost (loginOf alice ++ [datagram bob [0]])).peers p).rinfo = bob →
      ((serve plainHost (loginOf alice ++ [datagram bob [0]])).peers p).user = none) := by
  decide

end Grid0Relay.Forwarder
