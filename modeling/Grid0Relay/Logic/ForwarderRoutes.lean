import Grid0Relay.Lib.TwoRuns
import Grid0Relay.Logic.ForwarderRuns

/-!
# What the cached routes influence

Only `onIpv4` and `onIpv4Frag` look at `ipCache`. Two servers that differ in nothing but
their routes do the same at every other event.
-/

namespace Grid0Relay.Forwarder

open Lib Lib.Exec

/-- The server without its routes. -/
def Server.unrouted (s : Server) : Server := { s with ipCache := .empty }

/-- Equal but for the routes. -/
structure SameButRoutes (w w' : World) : Prop where
  server : w.server.unrouted = w'.server.unrouted
  actions : w.actions = w'.actions

/-- What the program does to the rest does not depend on the routes. -/
abbrev Unrouted {α : Type} (x : ServerM α) : Prop := Relates SameButRoutes SameButRoutes x

section Rules

variable {α β : Type}

theorem unrouted_bind {x : ServerM α} {f : α → ServerM β} (hx : Unrouted x)
    (hf : ∀ a, Unrouted (f a)) : Unrouted (x >>= f) :=
  relates_bind hx hf fun _ _ h => h

theorem unrouted_get {f : Server → ServerM α} (hview : ∀ s, f s.unrouted = f s)
    (hf : ∀ s, Unrouted (f s)) : Unrouted (getServer >>= f) := by
  intro w w' h
  have heq : f w.server = f w'.server := by rw [← hview w.server, h.server, hview]
  rw [bind_ok (getServer_apply w), bind_ok (getServer_apply w'), heq]
  exact hf w'.server w w' h

theorem unrouted_modify {f : Server → Server}
    (hview : ∀ s, (f s).unrouted = (f s.unrouted).unrouted) : Unrouted (modifyServer f) :=
  relates_modify fun w w' h => ⟨by rw [hview, h.server, ← hview], h.actions⟩

theorem unrouted_modifyPeer (p : Nat) (f : Peer → Peer) : Unrouted (modifyPeer p f) :=
  unrouted_modify fun _ => rfl

theorem unrouted_act (a : Action) : Unrouted (act a) :=
  relates_modify fun _ _ h => ⟨h.server, congrArg (· ++ [a]) h.actions⟩

end Rules

variable (host : Host) (env : Env)

theorem unrouted_sendToRaw (addr : AddressInfo) (msg : Bytes) :
    Unrouted (sendToRaw env addr msg) := by
  unfold sendToRaw
  cases env.throws addr with
  | some message => exact relates_throw _
  | none => exact unrouted_act _

theorem unrouted_sendTo (p : Nat) (type : ForwarderType) (payload : Bytes) :
    Unrouted (sendTo env p type payload) :=
  unrouted_get (fun _ => rfl) fun _ => unrouted_sendToRaw env _ _

theorem unrouted_onNeedAuth (p : Nat) (type : Option ForwarderType) (payload : Bytes) :
    Unrouted (onNeedAuth host env p type payload) := by
  refine relates_ite (fun _ => ?_) fun _ => ?_
  · refine unrouted_get (fun _ => rfl) fun s => ?_
    refine relates_when fun _ => ?_
    exact relates_guard fun _ => unrouted_modify fun _ => rfl
  · refine unrouted_get (fun _ => rfl) fun s => ?_
    cases (s.peers p).challenge with
    | none => exact unrouted_bind (unrouted_modifyPeer _ _) fun _ => unrouted_modify fun _ => rfl
    | some challenge =>
      exact relates_guard fun _ => unrouted_sendTo env _ _ _

theorem unrouted_onVerdict (login : Login) (verdict : Except String Bool) :
    Unrouted (onVerdict env login verdict) := by
  have hsettle : Unrouted (settle env login verdict) := by
    match verdict with
    | .ok true => exact unrouted_bind (unrouted_modifyPeer _ _) fun _ => relates_pure _
    | .ok false => exact unrouted_bind (unrouted_sendTo env _ _ _) fun _ => relates_pure _
    | .error message => exact relates_throw _
  refine unrouted_bind (relates_tryCatch hsettle (fun _ => relates_pure _) fun _ _ h => h) fun _ => ?_
  exact relates_ite (fun _ => unrouted_sendTo env _ _ _) fun _ => relates_pure _

theorem unrouted_resume (id : Nat) {verdict : Server → Login → Except String Bool}
    (hview : ∀ s, verdict s.unrouted = verdict s) : Unrouted (resume env id verdict) := by
  refine unrouted_get (fun s => ?_) fun s => ?_
  · have hlogins : s.unrouted.logins = s.logins := rfl
    simp only [hview, hlogins]
  · cases s.logins id with
    | none => exact relates_pure _
    | some login =>
      exact unrouted_bind (unrouted_modify fun _ => rfl) fun _ => unrouted_onVerdict env _ _

theorem unrouted_whileFilling (peer : Nat) {x : ServerM Unit} (hx : Unrouted x) :
    Unrouted (whileFilling peer x) :=
  unrouted_get (fun _ => rfl) fun _ => relates_ite (fun _ => hx) fun _ => relates_pure _

/-- Every event but a message. -/
theorem unrouted_handle {event : Event} (h : ∀ msg rinfo, event ≠ .message msg rinfo) :
    Unrouted (handle host env event) := by
  cases event with
  | message msg rinfo => exact absurd rfl (h msg rinfo)
  | lookedUp id found | timedOut id => exact unrouted_resume env id fun _ => rfl
  | scribbled peer random => exact unrouted_whileFilling peer (unrouted_modifyPeer _ _)
  | filled peer random =>
    refine unrouted_whileFilling peer (unrouted_bind (unrouted_modify fun _ => rfl) fun _ => ?_)
    exact unrouted_bind (unrouted_modifyPeer _ _) fun _ => unrouted_sendTo env _ _ _
  | fillFailed peer message =>
    exact unrouted_whileFilling peer
      (unrouted_bind (unrouted_modify fun _ => rfl) fun _ => relates_throw _)
  | sendFailed addr =>
    unfold handle
    exact unrouted_modify fun _ => rfl
  | interval =>
    unfold handle
    exact unrouted_modify fun _ => rfl

end Grid0Relay.Forwarder
