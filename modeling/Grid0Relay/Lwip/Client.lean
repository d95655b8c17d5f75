import Grid0Relay.Lib.Bytes
import Grid0Relay.Lib.Exec

/-!
# A TCP client of `uv_lwip`

`uv_lwip.c` puts libuv's stream calls on top of a raw lwIP connection. A client owns a
queue of write requests, linked through `next` with a head and a tail pointer, and a side
buffer for received data. Both are worked off by deferred callbacks (`uv_async_t`).

Requests are numbered in the order of submission and a pointer is such a number. A
request belongs to the caller again once its callback is invoked; reading it after that
is a fault. The caller's callbacks are a parameter. What lwIP and libuv answer is an
environment, and what passes to lwIP and to the callbacks is logged.
-/

namespace Grid0Relay.Uvl

open Lib Lib.Exec

/-! ## State -/

/-- `struct uvl_write`; `send_nbufs` is the number of buffers. -/
structure WriteReq where
  sendBufs : List Bytes
  sentBufs : Nat
  sent : UInt32
  pending : UInt32
  totalSent : UInt32
  totalLen : UInt32
  next : Option Nat
deriving DecidableEq

/-- The `status` of a `uvl_write_cb`. -/
inductive Status
  | ok
  | canceled
deriving DecidableEq, Repr

/-- What a `uvl_read_cb` is told: data, or one of the negative codes. -/
inductive Reading
  | data (bytes : Bytes)
  | eof
  | canceled
  | noBufs
deriving DecidableEq, Repr

/-- `struct uvl_tcp`, with the connection's part of lwIP and the logs. -/
structure Client where
  /-- Every request submitted so far. -/
  reqs : List WriteReq
  curWrite : Option Nat
  tailWrite : Option Nat
  /-- The `recv_used` bytes of `recv_buf`. -/
  recvBuf : Bytes
  closed : Bool
  /-- `read_cb` (and with it `alloc_cb`) is set. -/
  readCb : Bool
  /-- `pcb` is not null. -/
  pcb : Bool
  sentBytes : UInt32
  recvBytes : UInt32
  /-- `uv_close` was called on both wake-up handles. -/
  closing : Bool
  closedHandle : Nat
  /-- `tcp_sndbuf(pcb)`. -/
  sndBuf : UInt16
  /-- The data of the successful `tcp_write` calls. -/
  written : Bytes
  /-- The bytes lwIP reported as acknowledged. -/
  acked : Nat
  /-- The data accepted from lwIP. -/
  received : Bytes
  /-- The calls of `write_cb`. -/
  called : List (Nat × Status)
  /-- The calls of `read_cb`. -/
  delivered : List Reading
  /-- The number of answers taken from the environment. -/
  asked : Nat

inductive Fault
  /-- A null pointer is dereferenced. -/
  | nullPointer
  /-- A request is inspected after its callback. -/
  | stale
  /-- `send_bufs` is read past its end. -/
  | bounds
  /-- `ASSERT` fails, or a handle is closed twice. -/
  | assertion
  /-- A loop does not end. -/
  | loops
deriving DecidableEq, Repr

abbrev ClientM := EStateM Fault Client

/-- The results of lwIP's and libuv's calls. -/
structure Env where
  tcpWrite : Nat → Int
  tcpOutput : Nat → Int
  tcpClose : Nat → Int
  asyncSend : Nat → Int

/-- No call fails. -/
def Env.calm : Env := ⟨fun _ => 0, fun _ => 0, fun _ => 0, fun _ => 0⟩

/-- The caller's callbacks. `alloc_cb` answers with the length of a buffer, or with a
null one. -/
structure Callbacks where
  writeCb : Nat → Status → ClientM Unit
  readCb : Reading → ClientM Unit
  allocCb : Nat → Option Nat

def errOk : Int := 0

def errMem : Int := -1

def errAbrt : Int := -13

/-- `UVL_TCP_RECV_BUF_LEN`, lwIP's `TCP_WND`. -/
def recvBufLen : Nat := 4 * 512

/-- What `uvl_tcp_init` and `uvl_accept` leave. -/
def Client.init (sndBuf : UInt16) : Client where
  reqs := []
  curWrite := none
  tailWrite := none
  recvBuf := []
  closed := false
  readCb := false
  pcb := true
  sentBytes := 0
  recvBytes := 0
  closing := false
  closedHandle := 0
  sndBuf := sndBuf
  written := []
  acked := 0
  received := []
  called := []
  delivered := []
  asked := 0

/-! ## Memory and calls -/

def ask {α : Type} (answer : Nat → α) : ClientM α :=
  modifyGet fun c => (answer c.asked, { c with asked := c.asked + 1 })

/-- Dereference a request. -/
def getReq (id : Nat) : ClientM WriteReq := do
  let c ← get
  if c.called.any (·.1 == id) then throw .stale
  else
    match c.reqs[id]? with
    | none => throw .nullPointer
    | some req => pure req

def setReq (id : Nat) (req : WriteReq) : ClientM Unit :=
  modify fun c => { c with reqs := c.reqs.set id req }

/-- Dereference the connection. -/
def usePcb : ClientM Unit := do
  let c ← get
  if c.pcb then pure () else throw .nullPointer

/-- `req->write_cb(req, status)`. -/
def callWriteCb (cb : Callbacks) (id : Nat) (status : Status) : ClientM Unit := do
  modify fun c => { c with called := c.called ++ [(id, status)] }
  cb.writeCb id status

/-- `client->read_cb(client, ...)`. -/
def callReadCb (cb : Callbacks) (reading : Reading) : ClientM Unit := do
  modify fun c => { c with delivered := c.delivered ++ [reading] }
  cb.readCb reading

/-- `tcp_write`. A success takes the bytes off the send buffer. -/
def tcpWrite (env : Env) (data : Bytes) : ClientM Int := do
  let err ← ask env.tcpWrite
  if err = errOk then do
    modify fun c =>
      { c with sndBuf := c.sndBuf - UInt16.ofNat data.length, written := c.written ++ data }
    pure err
  else pure err

/-! ## Closing -/

/-- `uvl_client_freed`. -/
def clientFreed (cb : Callbacks) : ClientM Unit := do
  modify fun c => { c with pcb := false, closed := true }
  let c ← get
  if c.readCb then do
    callReadCb cb .eof
    modify fun c => { c with readCb := false }
  else pure ()

/-- `uvl_client_close_func`, with `uvl_client_abort` where `tcp_close` fails. -/
def clientCloseFunc (env : Env) (cb : Callbacks) : ClientM Int := do
  let c ← get
  if c.closed then throw .assertion
  else do
    usePcb
    let err ← ask env.tcpClose
    clientFreed cb
    pure (if err = errOk then errOk else errAbrt)

/-- `uvl_client_err_func`. -/
def clientErrFunc (cb : Callbacks) : ClientM Unit := clientFreed cb

/-- The loop of `uvl_cancel_reqs`. -/
def cancelLoop (cb : Callbacks) : Nat → Option Nat → ClientM Unit
  | _, none => pure ()
  | 0, some _ => throw .loops
  | fuel + 1, some id => do
    let req ← getReq id
    callWriteCb cb id .canceled
    cancelLoop cb fuel req.next

/-- `uvl_cancel_reqs`. -/
def cancelReqs (cb : Callbacks) : ClientM Unit := do
  let c ← get
  cancelLoop cb c.reqs.length c.curWrite
  modify fun c => { c with curWrite := none, tailWrite := none }
  let c ← get
  if c.readCb then do
    callReadCb cb .canceled
    modify fun c => { c with readCb := false }
  else pure ()

/-- Close the connection unless the peer has. -/
def ensureClosed (env : Env) (cb : Callbacks) : ClientM Unit := do
  let c ← get
  if c.closed then pure ()
  else do
    let _ ← clientCloseFunc env cb
    pure ()

/-- `uvl_tcp_close`. -/
def tcpClose (env : Env) (cb : Callbacks) : ClientM Unit := do
  ensureClosed env cb
  cancelReqs cb
  let c ← get
  -- `uv_close` asserts that the handle is not closing yet
  if c.closing then throw .assertion
  else modify fun c => { c with closing := true }

/-- `uvl_tcp_close_handle_cb`. -/
def tcpCloseHandleCb : ClientM Unit := do
  modify fun c => { c with closedHandle := c.closedHandle + 1 }
  let c ← get
  if c.closedHandle = 2 then
    modify fun c =>
      { c with
        recvBuf := []
        curWrite := none
        tailWrite := none
        readCb := false
        pcb := false
        closedHandle := 0 }
  else pure ()

/-! ## Writing -/

/-- A request as `uvl_write` sets it up. `total_len` is a 32-bit sum. -/
def WriteReq.init (bufs : List Bytes) : WriteReq :=
  ⟨bufs, 0, 0, 0, 0, bufs.foldl (fun len buf => len + UInt32.ofNat buf.length) 0, none⟩

/-- `uvl_write`. -/
def write (env : Env) (bufs : List Bytes) : ClientM Int := do
  let c ← get
  let id := c.reqs.length
  modify fun c => { c with reqs := c.reqs ++ [WriteReq.init bufs] }
  match c.tailWrite with
  | none => pure ()
  | some tail => do
    let req ← getReq tail
    setReq tail { req with next := some id }
  modify fun c => { c with tailWrite := some id }
  if c.curWrite.isNone then modify fun c => { c with curWrite := some id }
  else pure ()
  ask env.asyncSend

/-- The loop of `uvl_imp_write_buf_to_tcp`: what it returns from inside, if it does. -/
def writeBufLoop (env : Env) (cb : Callbacks) (id : Nat) (buf : Bytes) :
    Nat → ClientM (Option Int)
  | 0 => throw .loops
  | fuel + 1 => do
    let req ← getReq id
    usePcb
    let c ← get
    let toWrite := min (buf.length - req.sent.toNat) c.sndBuf.toNat
    if toWrite = 0 then pure none
    else do
      let err ← tcpWrite env ((buf.drop req.sent.toNat).take toWrite)
      if err = errOk then do
        let sent := req.sent + UInt32.ofNat toWrite
        setReq id
          { req with
            sent
            pending := req.pending + UInt32.ofNat toWrite
            totalSent := req.totalSent + UInt32.ofNat toWrite }
        modify fun c => { c with recvBytes := c.recvBytes + UInt32.ofNat toWrite }
        if sent.toNat < buf.length then writeBufLoop env cb id buf fuel else pure none
      else if err = errMem then pure (some 0)
      else do
        let ret ← clientCloseFunc env cb
        pure (some ret)

/-- `uvl_imp_write_buf_to_tcp`. Every pass takes from the send buffer. -/
def impWriteBufToTcp (env : Env) (cb : Callbacks) (id : Nat) : ClientM Int := do
  let req ← getReq id
  match req.sendBufs[req.sentBufs]? with
  | none => throw .bounds
  | some buf => do
    let c ← get
    let ret ← writeBufLoop env cb id buf (c.sndBuf.toNat + 1)
    match ret with
    | some ret => pure ret
    | none => do
      let c ← get
      if c.sndBuf = 0 then pure 0
      else do
        let req ← getReq id
        setReq id { req with sent := 0, sentBufs := req.sentBufs + 1 }
        pure 1

/-- The first loop of `uvl_imp_write_to_tcp`: the first request with unsent buffers. -/
def firstUnsent : Nat → Option Nat → ClientM (Option Nat)
  | _, none => pure none
  | 0, some _ => throw .loops
  | fuel + 1, some id => do
    let req ← getReq id
    if req.sentBufs < req.sendBufs.length then pure (some id) else firstUnsent fuel req.next

/-- The second loop of `uvl_imp_write_to_tcp`; false when it returns from inside. -/
def writeLoop (env : Env) (cb : Callbacks) : Nat → Option Nat → ClientM Bool
  | _, none => pure true
  | 0, some _ => throw .loops
  | fuel + 1, some id => do
    let ret ← impWriteBufToTcp env cb id
    if ret = 0 then pure true
    else if ret = -1 then pure false
    else do
      let req ← getReq id
      if req.sentBufs = req.sendBufs.length then writeLoop env cb fuel req.next
      else writeLoop env cb fuel (some id)

/-- `uvl_imp_write_to_tcp`. -/
def impWriteToTcp (env : Env) (cb : Callbacks) : ClientM Unit := do
  let c ← get
  if c.curWrite.isNone ∨ !c.pcb then throw .assertion
  else do
    let first ← firstUnsent c.reqs.length c.curWrite
    -- a round for every buffer, and the one that goes on with a closed client
    let ended ← writeLoop env cb ((c.reqs.map (·.sendBufs.length)).sum + 1) first
    if ended then do
      usePcb
      let err ← ask env.tcpOutput
      if err = errOk then pure ()
      else do
        let _ ← clientCloseFunc env cb
        pure ()
    else pure ()

/-- Every byte is written and acknowledged, as far as the counters tell. -/
def WriteReq.Complete (req : WriteReq) : Prop := req.totalSent = req.totalLen ∧ req.pending = 0
deriving Decidable

/-- The completion loop of `uvl_async_tcp_write_cb`. -/
def completeLoop (cb : Callbacks) : Nat → Option Nat → ClientM Unit
  | _, none => pure ()
  | 0, some _ => throw .loops
  | fuel + 1, some id => do
    let req ← getReq id
    if req.Complete then do
      modify fun c => { c with curWrite := req.next }
      callWriteCb cb id .ok
      completeLoop cb fuel req.next
    else pure ()

/-- An empty queue has no tail. -/
def clearTail : ClientM Unit := do
  let c ← get
  if c.curWrite.isNone then modify fun c => { c with tailWrite := none } else pure ()

/-- `uvl_async_tcp_write_cb`. -/
def asyncTcpWriteCb (env : Env) (cb : Callbacks) : ClientM Unit := do
  let c ← get
  completeLoop cb c.reqs.length c.curWrite
  clearTail
  let c ← get
  if c.closed then cancelReqs cb
  else if c.curWrite.isSome then impWriteToTcp env cb
  else pure ()

/-- The loop of `uvl_client_sent_func` over the queue. -/
def sentLoop : Nat → Option Nat → Nat → ClientM Unit
  | _, _, 0 => pure ()
  | _, none, _ => throw .nullPointer
  | 0, some _, _ => throw .loops
  | fuel + 1, some id, len => do
    let req ← getReq id
    let toSub := min req.pending.toNat len
    setReq id { req with pending := req.pending - UInt32.ofNat toSub }
    sentLoop fuel req.next (len - toSub)

/-- `uvl_client_sent_func`. -/
def clientSentFunc (env : Env) (len : UInt16) : ClientM Int := do
  let c ← get
  if c.closed ∨ len = 0 then throw .assertion
  else do
    modify fun c => { c with sentBytes := c.sentBytes + UInt32.ofNat len.toNat }
    sentLoop c.reqs.length c.curWrite len.toNat
    let _ ← ask env.asyncSend
    pure errOk

/-! ## Reading -/

/-- `uvl_async_tcp_read_cb`. -/
def asyncTcpReadCb (cb : Callbacks) : ClientM Unit := do
  let c ← get
  if c.readCb ∧ c.recvBuf.length > 0 then
    match cb.allocCb 65536 with
    | none => callReadCb cb .noBufs
    | some len =>
      if len < c.recvBuf.length then callReadCb cb .noBufs
      else do
        -- `tcp_recved`
        usePcb
        modify fun c => { c with recvBuf := [] }
        callReadCb cb (.data c.recvBuf)
  else pure ()

/-- `uvl_client_recv_func`; no data is the peer's FIN. -/
def clientRecvFunc (env : Env) (cb : Callbacks) (p : Option Bytes) : ClientM Int := do
  let c ← get
  if c.closed then throw .assertion
  else
    match p with
    | none => clientCloseFunc env cb
    | some data =>
      if data.length = 0 then throw .assertion
      else if data.length > recvBufLen - c.recvBuf.length then pure errMem
      else do
        modify fun c =>
          { c with recvBuf := c.recvBuf ++ data, received := c.received ++ data }
        let ret ← ask env.asyncSend
        pure (if ret = 0 then errOk else errAbrt)

/-- `uvl_read_start`; false is `UV_EALREADY` or a failed wake-up. -/
def readStart (env : Env) (cb : Callbacks) : ClientM Bool := do
  let c ← get
  if c.readCb then pure false
  else if c.closed then do
    callReadCb cb .eof
    pure true
  else do
    let err ← ask env.asyncSend
    if err = 0 then do
      modify fun c => { c with readCb := true }
      pure true
    else pure false

/-- `uvl_read_stop`. -/
def readStop : ClientM Unit := modify fun c => { c with readCb := false }

/-! ## The life of a connection -/

/-- A call of the application, of lwIP or of the event loop. -/
inductive Event
  | write (bufs : List Bytes)
  | asyncWrite
  /-- An acknowledgement, and the send buffer it leaves. -/
  | sent (len : UInt16) (sndBuf : UInt16)
  | recv (p : Option Bytes)
  | err
  | readStart
  | readStop
  | asyncRead
  | close
  | handleClosed

def handle (env : Env) (cb : Callbacks) : Event → ClientM Unit
  | .write bufs => do
    let _ ← write env bufs
    pure ()
  | .asyncWrite => asyncTcpWriteCb env cb
  | .sent len sndBuf => do
    modify fun c => { c with sndBuf, acked := c.acked + len.toNat }
    let _ ← clientSentFunc env len
    pure ()
  | .recv p => do
    let _ ← clientRecvFunc env cb p
    pure ()
  | .err => clientErrFunc cb
  | .readStart => do
    let _ ← readStart env cb
    pure ()
  | .readStop => readStop
  | .asyncRead => asyncTcpReadCb cb
  | .close => tcpClose env cb
  | .handleClosed => tcpCloseHandleCb

/-- The states of a connection whose every step is one `legal` allows. -/
inductive Life (legal : Client → Env → Callbacks → Event → Prop) : Client → Prop
  | init (sndBuf : UInt16) : Life legal (Client.init sndBuf)
  | step {c : Client} (env : Env) (cb : Callbacks) (event : Event) (before : Life legal c)
      (allowed : legal c env cb event) : Life legal (after (handle env cb event c))

/-- Callbacks that call nothing. -/
def Callbacks.quiet (allocCb : Nat → Option Nat) : Callbacks :=
  ⟨fun _ _ => pure (), fun _ => pure (), allocCb⟩

/-! ## Closing with a read callback that calls nothing -/

theorem usePcb_apply {c : Client} (hpcb : c.pcb = true) : usePcb c = .ok () c := by
  rw [usePcb, bind_ok (get_apply c), if_pos hpcb]
  rfl

/-- The client after `uvl_client_freed`. -/
def Client.freed (c : Client) : Client :=
  { c with
    pcb := false
    closed := true
    readCb := false
    delivered := if c.readCb then c.delivered ++ [.eof] else c.delivered }

section SilentRead

variable {cb : Callbacks} {c : Client} (silent : ∀ reading c, cb.readCb reading c = .ok () c)
include silent

theorem callReadCb_silent (reading : Reading) :
    callReadCb cb reading c = .ok () { c with delivered := c.delivered ++ [reading] } := by
  rw [callReadCb, bind_ok (modify_apply _ c)]
  exact silent _ _

theorem clientFreed_silent : clientFreed cb c = .ok () c.freed := by
  rw [clientFreed, bind_ok (modify_apply _ c), bind_ok (get_apply _), ite_run]
  cases hread : c.readCb with
  | false =>
    rw [if_neg (by simp), Client.freed, if_neg (by simp [hread])]
    rfl
  | true =>
    rw [if_pos rfl, bind_ok (callReadCb_silent silent .eof), Client.freed, if_pos hread]
    rfl

theorem clientCloseFunc_silent (env : Env) (opened : c.closed = false) (hpcb : c.pcb = true) :
    ∃ ret, clientCloseFunc env cb c = .ok ret { c with asked := c.asked + 1 }.freed := by
  refine ⟨if env.tcpClose c.asked = errOk then errOk else errAbrt, ?_⟩
  rw [clientCloseFunc, bind_ok (get_apply c), if_neg (by simp [opened]), bind_ok (usePcb_apply hpcb),
    ask, bind_ok (modifyGet_apply _ c), bind_ok (clientFreed_silent silent)]
  rfl

end SilentRead

end Grid0Relay.Uvl
