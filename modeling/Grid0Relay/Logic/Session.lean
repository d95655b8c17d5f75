import Grid0Relay.Lib.TomlWriter
import Grid0Relay.Logic.Lifecycle
import Grid0Relay.Rpc.Session

/-!
# What a session answers

Every reply of `RPCServerSession::onMessage` is one of a few answers, written out. What an
answer holds is a value of the state the command has led to, or of the machine's answers.
-/

namespace Grid0Relay.Session

open Lib Lib.Exec
open Lifecycle (Handles)
open Rpc (text)

/-! ## The loop of `stringReplace` -/

theorem findFrom_none {q : UInt8} {rest : Bytes} (h : q ∉ rest) (i : Nat) :
    findFrom [q] rest i = none := by
  induction rest generalizing i with
  | nil => rfl
  | cons b rest ih =>
    rw [List.mem_cons, not_or] at h
    rw [findFrom, if_neg fun hp => h.1 (List.cons_prefix_cons.mp hp).1, ih h.2]

theorem findFrom_some {q : UInt8} {front : Bytes} (h : q ∉ front) (rest : Bytes) (i : Nat) :
    findFrom [q] (front ++ q :: rest) i = some (i + front.length) := by
  induction front generalizing i with
  | nil => exact if_pos (List.prefix_append [q] rest)
  | cons b front ih =>
    rw [List.mem_cons, not_or] at h
    rw [List.cons_append, findFrom, if_neg fun hp => h.1 (List.cons_prefix_cons.mp hp).1, ih h.2,
      List.length_cons]
    congr 1
    omega

/-- The loop at the end of what it has replaced. -/
theorem replaceLoop_byte (q : UInt8) (dst : Bytes) {fuel : Nat} {rest : Bytes}
    (hfuel : rest.length < fuel) (seen : Bytes) :
    replaceLoop [q] dst fuel (seen ++ rest) (find (seen ++ rest) [q] seen.length) =
      seen ++ rest.flatMap fun b => if b = q then dst else [b] := by
  induction fuel generalizing rest seen with
  | zero => exact absurd hfuel (Nat.not_lt_zero _)
  | succ fuel ih =>
    have hfind : find (seen ++ rest) [q] seen.length = findFrom [q] rest seen.length := by
      rw [find, if_pos (by simp), List.drop_left]
    rw [hfind]
    by_cases hmem : q ∈ rest
    · obtain ⟨front, back, rfl, hfront⟩ := List.eq_append_cons_of_mem hmem
      have hpos : seen.length + front.length = (seen ++ front).length := by simp
      have hreplace : replace (seen ++ (front ++ q :: back)) (seen.length + front.length) 1 dst =
          seen ++ front ++ dst ++ back := by
        rw [replace, hpos, ← List.append_assoc, List.take_left, List.drop_length_add_append]
        rfl
      have hnext : seen.length + front.length + dst.length = (seen ++ front ++ dst).length := by
        rw [List.length_append, List.length_append]
      have hless : back.length < fuel := by
        simp only [List.length_append, List.length_cons] at hfuel
        omega
      rw [findFrom_some hfront, replaceLoop]
      dsimp only [List.length_singleton]
      rw [hreplace, hnext, ih hless, List.flatMap_append, Literal.flatMap_notMem hfront,
        List.flatMap_cons, if_pos rfl]
      simp only [List.append_assoc]
    · rw [findFrom_none hmem, Literal.flatMap_notMem hmem]
      rfl

/-- `escape` writes a TOML string, with no escapes but those of its quotes. -/
theorem escape_eq (value : Bytes) : escape value = 34 :: (Toml.basic.write value ++ [34]) := by
  have hloop := replaceLoop_byte 34 [92, 34] (Nat.lt_succ_self value.length) []
  have hquote : text "\"" = [34] := by decide
  have hescaped : text "\\\"" = [92, 34] := by decide
  rw [escape, stringReplace, hquote, hescaped]
  exact congrArg (fun body => [34] ++ body ++ [34]) hloop

/-! ## Answers -/

inductive Answer
  | status (s : LanPlayStatus)
  | interfaces (list : List NetInterface)
  | version (text : Bytes)
  | failed (reason : Bytes)
  | config (c : LanPlayConfig)
  | lastConfig (c : LanPlayConfig)
  | stats (s : LanPlayStats)
  | lost

/-- The reply that gives this answer. -/
def Answer.render : Answer → Bytes
  | .status s => kvString (text "status") (statusText s)
  | .interfaces list => list.flatMap showInterface
  | .version v => kvString (text "version") v
  | .failed reason => error reason
  | .config c => showConfig (text "config") c
  | .lastConfig c => showConfig (text "lastConfig") c
  | .stats s => showStats s
  | .lost => text "server lost"

/-- The command of a message. -/
def commandOf (message : Bytes) : Command := .ofKey (keyOf message)

/-- What a message that led from `w` to `w'` may be answered with: the values asked for, as
they are now, or why there are none. -/
inductive Says (m : Machine) (message : Bytes) (w w' : World) : Answer → Prop
  | lost (gone : m.alive w.asked = false) : Says m message w w' .lost
  | status (h : commandOf message = .status ∨ commandOf message = .start ∨
      commandOf message = .stop) : Says m message w w' (.status w'.lanPlay.status)
  | interfaces {devices : List PcapIf} (h : commandOf message = .listIf)
      (found : m.devices (w.asked + 1) = .ok devices) :
      Says m message w w' (.interfaces (devices.map netInterface))
  | version (h : commandOf message = .version) : Says m message w w' (.version m.version)
  | config (h : commandOf message ∈ [.config, .relayServer, .socks5Server, .fakeInternet,
      .broadcast, .pmtu]) : Says m message w w' (.config w'.lanPlay.config)
  | lastConfig (h : commandOf message = .lastConfig) :
      Says m message w w' (.lastConfig w'.lanPlay.lastConfig)
  | stats (h : commandOf message = .stats) :
      Says m message w w' (.stats ⟨(m.counters (w.asked + 1)).1, (m.counters (w.asked + 1)).2,
        m.now (w.asked + 2)⟩)
  | failed (h : commandOf message ∈ [.listIf, .start, .stop, .stats])
      (same : w'.lanPlay.config = w.lanPlay.config) :
      Says m message w w' (.failed w'.lanPlay.lastError)
  | invalid (h : commandOf message = .pmtu) (same : w'.lanPlay.config = w.lanPlay.config) :
      Says m message w w' (.failed m.what)
  | unknown (h : commandOf message = .unknown) (same : w'.lanPlay.config = w.lanPlay.config) :
      Says m message w w' (.failed (text "command not found: " ++ keyOf message))

/-- The number of a text lies outside of an `int`. -/
def Overflows (value : Bytes) : Prop :=
  (Strtol.strtol 0 (chars value)).1 < -2 ^ 31 ∨ 2 ^ 31 ≤ (Strtol.strtol 0 (chars value)).1

theorem stoi_outOfRange_iff (value : Bytes) :
    stoi value = .error .outOfRange ↔ Overflows value := by
  unfold stoi Overflows
  dsimp only
  split_ifs with hrange hrest
  · exact iff_of_true rfl hrange
  · exact iff_of_false (by simp) hrange
  · exact iff_of_false (by simp) hrange

/-- A start that frees what is not allocated, or gets to a gateway beside an earlier one. -/
def World.StartBreaks (w : World) (m : Machine) : Prop :=
  w.lanPlay.status ≠ .running ∧
    (!w.options.allocated ∨ (w.applied.startup m).reachesGateway ∧ w.handles.listening)

/-- A stop with a capture that is `NULL`. -/
def World.StopBreaks (w : World) : Prop := w.lanPlay.status ≠ .none ∧ w.handles.opened = none

/-- A command on which a server that is there does not return. -/
def BreaksOn (m : Machine) (value : Bytes) (w : World) : Command → Prop
  | .pmtu => Overflows value
  | .start => w.StartBreaks m
  | .stop => w.StopBreaks
  | _ => False

/-- What a command leads to: an answer, or the end of the process. -/
def Leads (m : Machine) (message : Bytes) (w : World) : EStateM.Result Escaped World Bytes → Prop
  | .ok reply w' => ∃ a, Says m message w w' a ∧ reply = a.render
  | .error _ _ =>
      BreaksOn m (valueOf message) { w with asked := w.asked + 1 } (commandOf message)

@[simp] theorem ask_apply {α : Type} (answer : Nat → α) (w : World) :
    ask answer w = .ok (answer w.asked) { w with asked := w.asked + 1 } := rfl

section

variable {m : Machine} {message : Bytes} {w w' : World}

theorem answer_leads {a : Answer} (h : Says m message w w' a) :
    Leads m message w (.ok a.render w') := ⟨a, h, rfl⟩

theorem lastError_leads (h : commandOf message ∈ [.listIf, .start, .stop, .stats])
    (same : w'.lanPlay.config = w.lanPlay.config) : Leads m message w (lastError w') :=
  answer_leads (.failed h same)

theorem configure_leads (h : commandOf message ∈ [.config, .relayServer, .socks5Server,
      .fakeInternet, .broadcast, .pmtu]) (f : LanPlayConfig → LanPlayConfig) :
    Leads m message w (configure f w') :=
  answer_leads (.config h)

end

/-- `start` and `stop` return, in the status they aim at or with an error, and leave the
configuration as it was, unless they break. -/
def Ends (x : SessionM Int) (status : LanPlayStatus) (breaks : Prop) (w : World) : Prop :=
  (¬ breaks ∧ ∃ ret w', x w = .ok ret w' ∧ w'.lanPlay.config = w.lanPlay.config ∧
    (ret = 0 → w'.lanPlay.status = status)) ∨
  (breaks ∧ ∃ e w', x w = .error e w')

section

variable (m : Machine) (w : World)

theorem finish_ends (call : World → Option Int × Handles) (escaped : Escaped)
    (status : LanPlayStatus) :
    Ends (finish m call escaped status) status ((call w).1 = none) w := by
  unfold Ends finish
  rw [bind_ok (get_apply w)]
  cases hcall : call w with
  | mk answer handles =>
    cases answer with
    | none => exact Or.inr ⟨rfl, escaped, w, rfl⟩
    | some ret =>
      refine Or.inl ⟨by simp, ?_⟩
      by_cases hzero : ret = 0
      · subst hzero
        exact ⟨0, ⟨{ w.lanPlay with status }, w.options, handles, w.asked + 1⟩, rfl, rfl,
          fun _ => rfl⟩
      · refine ⟨ret, ⟨{ w.lanPlay with lastError := m.lastErr w.asked }, w.options, handles,
          w.asked + 1⟩, ?_, rfl, fun h => absurd h hzero⟩
        simp only [if_neg hzero]
        rfl

theorem init_eq_none_iff : (w.init m).1 = none ↔
    (w.startup m).reachesGateway ∧ w.handles.listening := by
  obtain ⟨ret, t, N, k, hinit, ⟨hexit, -⟩, -⟩ := Lifecycle.lanPlayInit_turns (w.startup m)
    (Lifecycle.fresh_inherited w.handles) (by simp [Lifecycle.Handles.inherited])
  have hstarted := congrArg Prod.fst (hinit 0 0)
  rw [add_zero] at hstarted
  rw [World.init, hstarted]
  exact hexit

theorem close_eq_none_iff : (w.close m).1 = none ↔ w.handles.opened = none := by
  unfold World.close Lifecycle.lanPlayClose
  simp only [Ledger.read, bind, StateT.bind]
  cases w.handles.opened with
  | none => exact iff_of_true rfl rfl
  | some captures =>
    obtain ⟨wifi, zerotier⟩ := captures
    dsimp only
    generalize Lifecycle.closeOpened _ _ wifi zerotier = rest
    exact iff_of_false (Option.some_ne_none _) (Option.some_ne_none _)

theorem start_ends : Ends (start m) .running (w.StartBreaks m) w := by
  unfold start World.StartBreaks Ends
  rw [bind_ok (get_apply w), ite_run]
  split_ifs with hrunning
  · exact Or.inl ⟨fun h => h.1 hrunning, -1, _, rfl, rfl, fun hzero => absurd hzero (by decide)⟩
  by_cases hallocated : w.options.allocated = true
  · have happly : applyConfig w = .ok () w.applied := by
      rw [applyConfig, bind_ok (get_apply w), if_pos hallocated]
      rfl
    rw [bind_ok happly, and_iff_right hrunning,
      or_iff_right (by simp [hallocated] : ¬ (!w.options.allocated) = true)]
    have hends := finish_ends m w.applied (·.init m) .exited .running
    rw [init_eq_none_iff] at hends
    exact hends
  · refine Or.inr ⟨⟨hrunning, Or.inl (by simpa using hallocated)⟩, .badFree, w, ?_⟩
    rw [bind_apply, applyConfig, bind_ok (get_apply w), if_neg hallocated]
    rfl

theorem stop_ends : Ends (stop m) .none w.StopBreaks w := by
  unfold stop World.StopBreaks Ends
  rw [bind_ok (get_apply w), ite_run]
  split_ifs with hstopped
  · exact Or.inl ⟨fun h => h.1 hstopped, -1, _, rfl, rfl, fun hzero => absurd hzero (by decide)⟩
  · have hends := finish_ends m w (·.close m) .nullPointer .none
    rw [close_eq_none_iff] at hends
    rw [and_iff_right hstopped]
    exact hends

end

/-- The two commands that answer with the status they have led to. -/
theorem Ends.leads {m : Machine} {message : Bytes} {w : World} {x : SessionM Int}
    {status : LanPlayStatus} {breaks : Prop}
    (hx : Ends x status breaks { w with asked := w.asked + 1 })
    (h : commandOf message = .start ∨ commandOf message = .stop)
    (hbreaks : breaks →
      BreaksOn m (valueOf message) { w with asked := w.asked + 1 } (commandOf message)) :
    Leads m message w ((x >>= fun ret =>
      if ret = 0 then pure (kvString (text "status") (statusText status)) else lastError)
        { w with asked := w.asked + 1 }) := by
  rcases hx with ⟨-, ret, w₁, hrun, hconfig, hstatus⟩ | ⟨hbreak, e, w₁, hrun⟩
  · rw [bind_ok hrun, ite_run]
    split_ifs with hzero
    · have hsays : Says m message w w₁ (.status w₁.lanPlay.status) := .status (Or.inr h)
      rw [hstatus hzero] at hsays
      exact ⟨_, hsays, rfl⟩
    · refine lastError_leads ?_ hconfig
      rcases h with h | h <;> simp [h]
  · rw [bind_apply, hrun]
    exact hbreaks hbreak

theorem getNetInterfaces_leads {m : Machine} {message : Bytes} {w : World}
    (h : commandOf message = .listIf) :
    Leads m message w ((getNetInterfaces m >>= fun
      | some list => pure (list.flatMap showInterface)
      | none => lastError) { w with asked := w.asked + 1 }) := by
  unfold getNetInterfaces
  rw [bind_assoc, bind_ok (ask_apply m.devices _)]
  cases hdevices : m.devices (w.asked + 1) with
  | ok devices => exact answer_leads (.interfaces h hdevices)
  | error errBuf => exact lastError_leads (by rw [h]; decide) rfl

theorem getStats_leads {m : Machine} {message : Bytes} {w : World}
    (h : commandOf message = .stats) :
    Leads m message w ((getStats m >>= fun
      | some stats => pure (showStats stats)
      | none => lastError) { w with asked := w.asked + 1 }) := by
  unfold getStats
  rw [bind_assoc, bind_ok (get_apply _), bind_apply, ite_run]
  split_ifs
  · exact lastError_leads (by rw [h]; decide) rfl
  · exact answer_leads (.stats h)

theorem pmtu_leads {m : Machine} {message : Bytes} {w w' : World} (h : commandOf message = .pmtu)
    (same : w'.lanPlay.config = w.lanPlay.config) :
    Leads m message w (run m (keyOf message) (valueOf message) .pmtu w') := by
  unfold run
  cases hstoi : stoi (valueOf message) with
  | ok pmtu => exact configure_leads (by rw [h]; decide) _
  | error e =>
    cases e with
    | invalidArgument => exact answer_leads (.invalid h same)
    | outOfRange =>
      change BreaksOn _ _ _ (commandOf message)
      rw [h]
      exact (stoi_outOfRange_iff _).mp hstoi

theorem run_leads (m : Machine) (message : Bytes) (w : World) :
    Leads m message w (run m (keyOf message) (valueOf message) (commandOf message)
      { w with asked := w.asked + 1 }) := by
  have hconfigure : ∀ {c : Command} (f : LanPlayConfig → LanPlayConfig),
      c ∈ [.config, .relayServer, .socks5Server, .fakeInternet, .broadcast, .pmtu] →
      commandOf message = c →
        Leads m message w (configure f { w with asked := w.asked + 1 }) :=
    fun f hc hcommand => configure_leads (hcommand ▸ hc) f
  cases hcommand : commandOf message with
  | status => exact answer_leads (a := .status w.lanPlay.status) (.status (Or.inl hcommand))
  | listIf => exact getNetInterfaces_leads hcommand
  | version => exact answer_leads (a := .version m.version) (.version hcommand)
  | start => exact (start_ends m _).leads (Or.inl hcommand) (by rw [hcommand]; exact id)
  | stop => exact (stop_ends m _).leads (Or.inr hcommand) (by rw [hcommand]; exact id)
  | config =>
    exact answer_leads (a := .config w.lanPlay.config) (.config (by rw [hcommand]; decide))
  | lastConfig => exact answer_leads (a := .lastConfig w.lanPlay.lastConfig) (.lastConfig hcommand)
  | relayServer =>
    exact hconfigure (fun c => { c with relayServer := valueOf message }) (by decide) hcommand
  | socks5Server =>
    exact hconfigure (fun c => { c with socks5Server := valueOf message }) (by decide) hcommand
  | fakeInternet =>
    exact hconfigure (fun c => { c with fakeInternet := valueOf message = text "true" })
      (by decide) hcommand
  | broadcast =>
    exact hconfigure (fun c => { c with broadcast := valueOf message = text "true" })
      (by decide) hcommand
  | pmtu => exact pmtu_leads hcommand rfl
  | stats => exact getStats_leads hcommand
  | unknown =>
    exact answer_leads (a := .failed (text "command not found: " ++ keyOf message))
      (.unknown hcommand rfl)

theorem onMessage_leads (m : Machine) (message : Bytes) (w : World) :
    Leads m message w (onMessage m message w) := by
  unfold onMessage
  rw [bind_ok (ask_apply m.alive w), ite_run]
  split_ifs with halive
  · exact run_leads m message w
  · exact answer_leads (.lost (by simpa using halive))

/-- A failure leaves the configuration as it was. -/
theorem Says.same {m : Machine} {message : Bytes} {w w' : World} {reason : Bytes}
    (h : Says m message w w' (.failed reason)) : w'.lanPlay.config = w.lanPlay.config := by
  cases h with
  | failed h same => exact same
  | invalid h same => exact same
  | unknown h same => exact same

end Grid0Relay.Session
