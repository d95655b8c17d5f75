import Grid0Relay.Logic.Session
import Grid0Relay.Theorems.Lifecycle

/-!
# Commands of a session

Every message gets a reply but three kinds: `pmtu` with a number that is no `int`, where
`std::stoi` throws what nobody catches; `start` over an option of the command line or over the
gateway of a start that failed; and `stop` over captures that are closed. A message that is
answered with an error leaves the configuration as it was.
-/

namespace Grid0Relay.Session

open Lib Lib.Exec
open Rpc (text)

theorem head_kvString {key : Bytes} {b : UInt8} (h : key.head? = some b) (value : Bytes) :
    (kvString key value).head? = some b := by
  cases key with
  | nil => cases h
  | cons c key => exact h

/-- No other answer looks like an error. -/
theorem failed_of_render {a : Answer} {reason : Bytes} (h : a.render = error reason) :
    ∃ reason', a = .failed reason' := by
  have herror : (error reason).head? = some 101 := head_kvString (by decide) reason
  rw [← h] at herror
  have hother : ∀ {reply : Bytes} {b : UInt8}, reply.head? = some b → b ≠ 101 →
      reply.head? ≠ some 101 := by
    intro reply b hhead hb heq
    exact hb (Option.some.inj (hhead.symm.trans heq))
  cases a with
  | status s =>
    have hhead := head_kvString (by decide : (text "status").head? = some 115) (statusText s)
    exact absurd herror (hother hhead (by decide))
  | interfaces list =>
    cases list with
    | nil => cases herror
    | cons netif list => exact absurd herror (hother rfl (by decide : (91 : UInt8) ≠ 101))
  | version v =>
    have hhead := head_kvString (by decide : (text "version").head? = some 118) v
    exact absurd herror (hother hhead (by decide))
  | failed reason' => exact ⟨reason', rfl⟩
  | config c | lastConfig c | stats s =>
    exact absurd herror (hother rfl (by decide : (91 : UInt8) ≠ 101))
  | lost => exact absurd herror (by decide)

/-- The process ends in `onMessage`. -/
theorem onMessage_breaks {m : Machine} {message : Bytes} {w : World}
    (halive : m.alive w.asked = true)
    (h : BreaksOn m (valueOf message) { w with asked := w.asked + 1 } (commandOf message)) :
    ∃ e w', onMessage m message w = .error e w' := by
  unfold onMessage
  rw [bind_ok (ask_apply m.alive w), halive, if_pos rfl]
  change ∃ e w', run m _ _ (commandOf message) _ = .error e w'
  cases hcommand : commandOf message <;> rw [hcommand] at h
  case pmtu =>
    unfold run
    rw [(stoi_outOfRange_iff _).mpr h]
    exact ⟨_, _, rfl⟩
  case start =>
    rcases start_ends m { w with asked := w.asked + 1 } with ⟨hnot, -⟩ | ⟨-, e, w', hrun⟩
    · exact absurd h hnot
    · change ∃ e w', (start m >>= _) _ = .error e w'
      rw [bind_apply, hrun]
      exact ⟨e, w', rfl⟩
  case stop =>
    rcases stop_ends m { w with asked := w.asked + 1 } with ⟨hnot, -⟩ | ⟨-, e, w', hrun⟩
    · exact absurd h hnot
    · change ∃ e w', (stop m >>= _) _ = .error e w'
      rw [bind_apply, hrun]
      exact ⟨e, w', rfl⟩
  all_goals exact h.elim

/-- A start that finds the first of its UDP ports taken. -/
def busyStartup : Lifecycle.Startup :=
  { Lifecycle.plainStartup with reservation := fun _ => ⟨true, 0, -98, 0⟩ }

/-- A machine with one adapter, on which the relay does not start. -/
def plainMachine : Machine where
  alive := fun _ => true
  devices := fun _ => .ok [⟨text "eth0", none, [.inet 192 168 0 2]⟩]
  startup := fun _ => busyStartup
  parseAddr := fun _ _ => true
  closing := fun _ => Lifecycle.plainClosing
  lastErr := fun _ => text "Cannot reserve ZeroTier UDP/35000"
  counters := fun _ => (⟨0, 0, 0, 0⟩, ⟨0, 0, 0, 0⟩)
  now := fun _ => 0
  version := text "1"
  what := text "stoi"

def bootWorld : World where
  lanPlay := ⟨[], .init, .none, .init⟩
  options := ⟨false, false, 0, none, none⟩
  handles := .boot
  asked := 0

end Grid0Relay.Session
