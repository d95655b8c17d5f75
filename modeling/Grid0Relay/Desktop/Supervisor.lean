import Grid0Relay.Lib.Bytes
import Mathlib.Data.List.Infix

/-!
# The supervisor of the relay process

`desktop/posix-supervisor.cpp` behind its `fork`. The application owns the other end of the
control socket; the supervisor passes the relay's output on, and stops the relay when it is told
to or when the application goes away. One turn of the loop is a function of what the system
calls of that turn give.
-/

namespace Grid0Relay.Supervisor

open Lib

/-- Five seconds of the steady clock, in nanoseconds. -/
def grace : Nat := 5 * 10 ^ 9

def maxOutput : Nat := 4 * 1024 * 1024

/-- `STOP\n`. -/
def stopText : Bytes := [83, 84, 79, 80, 10]

inductive Signal
  | int
  | kill
deriving DecidableEq

/-- A `read` of the control socket; `again` is `EAGAIN` or `EINTR`. -/
inductive Received
  | bytes (b : Bytes)
  | again
  | gone

/-- A `send`; less than all may be taken, or nothing. -/
inductive Sent
  | took (n : Nat)
  | again
  | broken

/-- `waitpid` with `WNOHANG`. -/
inductive Child
  | running
  | exited
  | lost

structure Turn where
  /-- A handler of `SIGTERM` or `SIGINT` has run. -/
  signalled : Bool
  /-- The two readings of the clock. -/
  now : Nat
  later : Nat
  /-- What `poll` reports is read. -/
  control : Option Received
  /-- The reads of the pipe, and whether they end with the end of the file. -/
  logs : Option (List Bytes × Bool)
  send : Sent
  child : Child
  /-- What is read and sent when the child has exited. -/
  drained : List Bytes
  flushed : List Nat

structure State where
  interrupted : Bool
  stopping : Bool
  connected : Bool
  logOpen : Bool
  output : Bytes
  commands : Bytes
  deadline : Option Nat
  /-- The loop has ended. -/
  ended : Bool
  /-- The calls of `kill`, with the readings of the clock next to them. -/
  kills : List (Signal × Nat)
  /-- All that was read of the relay's output, and what the application was sent of it. -/
  logged : Bytes
  delivered : Bytes

def State.start : State :=
  ⟨false, false, true, true, [], [], none, false, [], [], []⟩

def notice (t : Turn) (s : State) : State := { s with interrupted := s.interrupted || t.signalled }

def checkStop (t : Turn) (s : State) : State :=
  if s.interrupted && !s.stopping then
    { s with kills := s.kills ++ [(.int, t.now)], stopping := true, deadline := some (t.now + grace) }
  else s

/-- `time_point::max()` is never passed. -/
def checkDeadline (t : Turn) (s : State) : State :=
  match s.deadline with
  | some deadline =>
    if s.stopping && decide (deadline < t.later) then
      { s with kills := s.kills ++ [(.kill, t.later)] }
    else s
  | none => s

def hangUp (s : State) : State := { s with connected := false, interrupted := true }

def readControl (t : Turn) (s : State) : State :=
  match s.connected, t.control with
  | true, some (.bytes b) =>
    let commands := s.commands ++ b
    { s with
      commands := commands
      interrupted :=
        s.interrupted || decide (stopText <:+: commands) || decide (commands.length > 64) }
  | true, some .gone => hangUp s
  | _, _ => s

def readChunk (s : State) (b : Bytes) : State :=
  let output := if s.connected then s.output ++ b else s.output
  if output.length > maxOutput then { hangUp s with logged := s.logged ++ b, output := [] }
  else { s with logged := s.logged ++ b, output := output }

def readLogs (t : Turn) (s : State) : State :=
  match s.logOpen, t.logs with
  | true, some (chunks, eof) => { chunks.foldl readChunk s with logOpen := !eof }
  | _, _ => s

def take (n : Nat) (s : State) : State :=
  { s with delivered := s.delivered ++ s.output.take n, output := s.output.drop n }

def sendOutput (t : Turn) (s : State) : State :=
  if s.connected && !s.output.isEmpty then
    match t.send with
    | .took n => take n s
    | .again => s
    | .broken => hangUp s
  else s

/-- The twenty tries behind the exit of the child. -/
def flush (s : State) (n : Nat) : State :=
  if s.connected && !s.output.isEmpty then take n s else s

def waitChild (t : Turn) (s : State) : State :=
  match t.child with
  | .running => s
  | .lost => { s with ended := true }
  | .exited =>
    (t.flushed.take 20).foldl flush
      { s with
        ended := true
        output := s.output ++ t.drained.flatten
        logged := s.logged ++ t.drained.flatten }

/-- One turn of the loop. -/
def turn (s : State) (t : Turn) : State :=
  if s.ended then s
  else waitChild t (sendOutput t (readLogs t (readControl t
    (checkDeadline t (checkStop t (notice t s))))))

def run (turns : List Turn) : State := turns.foldl turn .start

end Grid0Relay.Supervisor
