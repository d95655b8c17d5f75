import Grid0Relay.Logic.WriteStream

/-!
# Write completion under re-entrant close

A completion callback may close the client it is called for. `uvl_async_tcp_write_cb` has
saved the next request by then, and `uvl_cancel_reqs` leaves `cur_write` in place while it
runs: the close is safe only where no request is queued behind the callback's own.
-/

namespace Grid0Relay.Uvl

open Lib Lib.Exec Lib.Fifo

/-! ## Statement -/

/-- Write callbacks that call `uvl_tcp_close` where `policy` says so, nested at most so deep. -/
def reentrant (env : Env) (policy : Nat → Status → Client → Bool) : Nat → Callbacks
  | 0 => ⟨fun _ _ => throw .loops, fun _ => pure (), some⟩
  | depth + 1 =>
    { writeCb := fun id status => do
        let c ← get
        if policy id status c then tcpClose env (reentrant env policy depth) else pure ()
      readCb := fun _ => pure ()
      allocCb := some }

/-- A callback closes only on completion, with no request behind its own and no close
before. -/
def Careful (policy : Nat → Status → Client → Bool) : Prop :=
  ∀ id status c, policy id status c = true →
    status = .ok ∧ c.curWrite = none ∧ c.closing = false

/-- The calls in the life of a connection: it ends with `uvl_tcp_close`, the peer's part
with a FIN or an error. lwIP's send buffer and what it has not seen acknowledged share 16
bits. -/
def LifeCall (c : Client) : Event → Prop
  | .write bufs => c.closing = false ∧ bufs ≠ []
  | .asyncWrite | .readStart | .readStop | .asyncRead | .close => c.closing = false
  | .sent len sndBuf => c.closed = false ∧ len ≠ 0 ∧ c.acked + len.toNat ≤ c.written.length ∧
      c.written.length - (c.acked + len.toNat) + sndBuf.toNat ≤ 65535
  | .recv p => c.closed = false ∧ p ≠ some []
  | .err => c.closed = false
  | .handleClosed => c.closing = true

def MayClose (careful : (Nat → Status → Client → Bool) → Prop) (lwip : Env → Prop) (c : Client)
    (env : Env) (cb : Callbacks) (event : Event) : Prop :=
  LifeCall c event ∧ lwip env ∧ ∃ policy depth, careful policy ∧ cb = reentrant env policy (depth + 1)

/-- Every callback is that of a submitted request, at most once, and once the client is
closed every request has had its callback. -/
structure Completes (c : Client) : Prop where
  once : (c.called.map Prod.fst).Nodup
  submitted : ∀ call ∈ c.called, call.1 < c.reqs.length
  all : c.closing = true → ∀ id < c.reqs.length, id ∈ c.called.map Prod.fst

/-! ## Cancelling -/

/-- A queue whose tail pointer may be stale, as a completion callback finds it. -/
structure Headed (c : Client) (past queue : List WriteReq) : Prop where
  at_ : At c past queue
  cur : c.curWrite = link c.reqs.length past.length
  called : c.called.map Prod.fst = List.range past.length

/-- The client after `uvl_cancel_reqs`. -/
def Client.canceled (c : Client) (past queue : List WriteReq) : Client :=
  { c with
    curWrite := none
    tailWrite := none
    called := c.called ++ calls .canceled past.length queue
    readCb := false
    delivered := if c.readCb then c.delivered ++ [.canceled] else c.delivered }

section Cancel

variable {c : Client} {past queue : List WriteReq} {cb : Callbacks}

theorem Queued.headed (h : Queued c past queue) : Headed c past queue := ⟨h.at, h.cur, h.called⟩

theorem Headed.canceled (h : Headed c past queue) :
    Queued (c.canceled past queue) (past ++ queue) [] := by
  refine ⟨by rw [List.append_nil]; exact h.at_.reqs, ?_, rfl, trivial, ?_⟩
  · change none = link c.reqs.length (past ++ queue).length
    rw [← h.at_.reqs, link_self]
  · change (c.called ++ calls .canceled past.length queue).map Prod.fst = _
    rw [List.map_append, h.called, map_fst_calls, List.length_append, List.range_eq_range',
      List.range_eq_range']
    have hrange := @List.range'_append_1 0 past.length queue.length
    rwa [Nat.zero_add] at hrange

theorem cancelReqs_headed (h : Headed c past queue)
    (silentRead : ∀ reading c, cb.readCb reading c = .ok () c)
    (silent : queue = [] ∨ ∀ id c, cb.writeCb id .canceled c = .ok () c) :
    cancelReqs cb c = .ok () (c.canceled past queue) := by
  have hlen : queue.length ≤ c.reqs.length := by
    rw [h.at_.reqs, List.length_append]
    omega
  have hloop : cancelLoop cb c.reqs.length (link c.reqs.length past.length) c =
      .ok () { c with called := c.called ++ calls .canceled past.length queue } := by
    rcases silent with rfl | silent
    · rw [h.at_.link_nil, cancelLoop, calls, List.length_nil, List.range'_zero, List.map_nil,
        List.append_nil]
      rfl
    · exact cancelLoop_at silent h.at_ hlen
  rw [cancelReqs, bind_ok (get_apply c), h.cur, bind_ok hloop, bind_ok (modify_apply _ _),
    bind_ok (get_apply _), ite_run]
  cases hread : c.readCb with
  | false =>
    rw [if_neg (by simp), Client.canceled, if_neg (by simp [hread])]
    rfl
  | true =>
    rw [if_pos rfl, bind_ok (callReadCb_silent silentRead .canceled), Client.canceled,
      if_pos hread]
    rfl

/-! ## Closing -/

/-- `uvl_tcp_close` settles the whole queue. -/
theorem tcpClose_headed (env : Env) (cb : Callbacks) (h : Headed c past queue) (open_ : c.closing = false)
    (hpcb : c.closed = false → c.pcb = true)
    (silentRead : ∀ reading c, cb.readCb reading c = .ok () c)
    (silent : queue = [] ∨ ∀ id c, cb.writeCb id .canceled c = .ok () c) :
    ∃ c', tcpClose env cb c = .ok () c' ∧ Queued c' (past ++ queue) [] ∧ c'.closed = true ∧
      c'.closing = true ∧ c'.readCb = false := by
  obtain ⟨c₁, hensure, hheaded, hclosed, hclosing⟩ : ∃ c₁, ensureClosed env cb c = .ok () c₁ ∧
      Headed c₁ past queue ∧ c₁.closed = true ∧ c₁.closing = false := by
    rw [ensureClosed, bind_ok (get_apply c), ite_run]
    by_cases hclosed : c.closed = true
    · rw [if_pos hclosed]
      exact ⟨c, rfl, h, hclosed, open_⟩
    · have hopen := Bool.eq_false_of_not_eq_true hclosed
      obtain ⟨ret, hrun⟩ := clientCloseFunc_silent silentRead env hopen (hpcb hopen)
      rw [if_neg hclosed, bind_ok hrun]
      exact ⟨_, rfl, ⟨⟨h.at_.reqs, h.at_.threaded, h.at_.live⟩, h.cur, h.called⟩, rfl, open_⟩
  have hcancel := cancelReqs_headed hheaded silentRead silent
  refine ⟨{ c₁.canceled past queue with closing := true }, ?_,
    hheaded.canceled.congr hheaded.canceled.reqs rfl rfl rfl rfl, hclosed, rfl, rfl⟩
  rw [tcpClose, bind_ok hensure, bind_ok hcancel, bind_ok (get_apply _), if_neg]
  · rfl
  · change ¬ c₁.closing = true
    rw [hclosing]
    exact Bool.false_ne_true

end Cancel

/-! ## The invariant -/

/-- A connection whose queue is intact. -/
structure Settles (c : Client) (past queue : List WriteReq) : Prop where
  queued : Queued c past queue
  ordered : Ordered queue
  inBounds : ∀ req ∈ queue, req.InBounds
  opened : c.closed = false → c.pcb = true ∧ c.written.length = c.acked + pendingSum queue ∧
    pendingSum queue + c.sndBuf.toNat ≤ 65535
  reading : c.readCb = true → c.closed = false
  closing : c.closing = true → queue = [] ∧ c.closed = true

theorem Settles.completes {c : Client} {past queue : List WriteReq} (h : Settles c past queue) :
    Completes c := by
  refine ⟨?_, ?_, ?_⟩
  · rw [h.queued.called]
    exact List.nodup_range
  · intro call hcall
    have hlive := h.queued.at.live call hcall
    rw [h.queued.reqs, List.length_append]
    omega
  · intro hclosing id hid
    rw [h.queued.reqs, (h.closing hclosing).1, List.append_nil] at hid
    rw [h.queued.called, List.mem_range]
    exact hid

/-- A closed client has nothing left to do. -/
theorem settles_closed {c : Client} {past : List WriteReq} (h : Queued c past [])
    (closed : c.closed = true) (hread : c.readCb = false) : Settles c past [] := by
  refine ⟨h, .nil, by simp, ?_, ?_, fun _ => ⟨rfl, closed⟩⟩
  · intro hopen
    rw [closed] at hopen
    cases hopen
  · intro hreading
    rw [hread] at hreading
    cases hreading

theorem settles_init (sndBuf : UInt16) : Settles (Client.init sndBuf) [] [] := by
  refine ⟨⟨rfl, rfl, rfl, trivial, rfl⟩, .nil, by simp, fun _ => ⟨rfl, rfl, ?_⟩, fun _ => rfl, ?_⟩
  · have := sndBuf.toNat_lt
    change 0 + sndBuf.toNat ≤ 65535
    omega
  · intro hclosing
    cases hclosing

/-! ## Callbacks -/

section Careful

variable {env : Env} {policy : Nat → Status → Client → Bool} {depth : Nat}

theorem reentrant_read (reading : Reading) (c : Client) :
    (reentrant env policy depth).readCb reading c = .ok () c := by
  cases depth <;> rfl

/-- What a careful callback does. -/
theorem reentrant_write (id : Nat) (status : Status) (c : Client) :
    (reentrant env policy (depth + 1)).writeCb id status c =
      if policy id status c then tcpClose env (reentrant env policy depth) c else .ok () c := by
  change ((get >>= fun c => if policy id status c then tcpClose env (reentrant env policy depth)
    else pure ()) : ClientM Unit) c = _
  rw [bind_ok (get_apply c), ite_run]
  rfl

theorem Careful.canceled (careful : Careful policy) (id : Nat) (c : Client) :
    (reentrant env policy (depth + 1)).writeCb id .canceled c = .ok () c := by
  rw [reentrant_write, if_neg]
  intro hclose
  cases (careful id .canceled c hclose).1

theorem Careful.behind (careful : Careful policy) (id : Nat) (c : Client)
    (hcur : c.curWrite ≠ none) :
    (reentrant env policy (depth + 1)).writeCb id .ok c = .ok () c := by
  rw [reentrant_write, if_neg]
  intro hclose
  exact hcur (careful id .ok c hclose).2.1

end Careful

/-! ## Steps -/

section Steps

variable {c : Client} {past queue : List WriteReq} {env : Env}
  {policy : Nat → Status → Client → Bool} {depth : Nat}

/-- The pending counts follow the chunks as long as they fit 32 bits. -/
theorem pendingSum_advancesAll {queue' : List WriteReq} {chunk : Bytes}
    (hadv : AdvancesAll queue queue' chunk)
    (room : pendingSum queue + chunk.length < 2 ^ 32) :
    pendingSum queue' = pendingSum queue + chunk.length := by
  have hcons : ∀ r q, pendingSum (r :: q) = r.pending.toNat + pendingSum q := fun _ _ => rfl
  induction hadv with
  | nil => rfl
  | cons head tail ih =>
    rw [hcons, List.length_append] at room
    rw [hcons, hcons, ih (by omega), head.pending, UInt32.toNat_add, UInt32.toNat_ofNat',
      List.length_append]
    omega

/-- The deferred callback, when the callback of the last request closes the client. -/
theorem asyncTcpWriteCb_closes {cb : Callbacks} {c' : Client} (h : Queued c past queue)
    (silent : ∀ id c, c.curWrite ≠ none → cb.writeCb id .ok c = .ok () c)
    (silentRead : ∀ reading c, cb.readCb reading c = .ok () c)
    (hall : ∀ req ∈ queue, req.Complete) (hsome : queue ≠ [])
    (hlast : cb.writeCb (c.reqs.length - 1) .ok (c.popped past queue) = .ok () c')
    (hqueued : Queued c' (past ++ queue) []) (hclosed : c'.closed = true) :
    asyncTcpWriteCb env cb c = .ok () (c'.canceled (past ++ queue) []) := by
  have hlen : queue.length ≤ c.reqs.length := by
    rw [h.reqs, List.length_append]
    omega
  obtain ⟨done, rest, hsplit, -, hhead, hrun⟩ := completeLoop_at silent h.at h.cur hlen
  obtain rfl : rest = [] := by
    cases rest with
    | nil => rfl
    | cons req rest => exact absurd (hall req (by rw [hsplit]; simp)) (hhead req rfl)
  rw [List.append_nil] at hsplit
  subst hsplit
  have hloop : completeLoop cb c.reqs.length c.curWrite c = .ok () c' := by
    rw [h.cur, hrun, if_pos ⟨hsome, rfl⟩, hlast]
  have htail : clearTail c' = .ok () c' := by
    have hcur : c'.curWrite = none := by rw [hqueued.cur, hqueued.at.link_nil]
    have hnone : c'.tailWrite = none := hqueued.tail
    rw [clearTail, bind_ok (get_apply c'), hcur, if_pos Option.isNone_none, modify_apply]
    rw [← hnone]
  rw [asyncTcpWriteCb, bind_ok (get_apply c), bind_ok hloop, bind_ok htail, bind_ok (get_apply c'),
    if_pos hclosed]
  exact cancelReqs_headed hqueued.headed silentRead (.inl rfl)

/-- The reading half of the client does not touch the queue. -/
theorem Settles.congr {c' : Client} (h : Settles c past queue) (hreqs : c'.reqs = c.reqs)
    (hcur : c'.curWrite = c.curWrite) (htail : c'.tailWrite = c.tailWrite)
    (hcalled : c'.called = c.called) (hclosing : c'.closing = c.closing)
    (hreading : c'.readCb = true → c'.closed = false)
    (hclosed : c.closed = true → c'.closed = true)
    (hopened : c'.closed = false → c'.pcb = c.pcb ∧ c'.written = c.written ∧ c'.acked = c.acked ∧
      c'.sndBuf = c.sndBuf) : Settles c' past queue := by
  refine ⟨h.queued.congr (hreqs.trans h.queued.reqs) rfl hcur htail hcalled, h.ordered, h.inBounds,
    ?_, hreading, ?_⟩
  · intro hopen
    obtain ⟨hpcb, hwritten, hacked, hsnd⟩ := hopened hopen
    have hopen' : c.closed = false := by
      cases hc : c.closed with
      | false => rfl
      | true => rw [hclosed hc] at hopen; cases hopen
    rw [hpcb, hwritten, hacked, hsnd]
    exact h.opened hopen'
  · intro hc
    rw [hclosing] at hc
    exact ⟨(h.closing hc).1, hclosed (h.closing hc).2⟩

theorem Settles.freed (h : Settles c past queue) (n : Nat) :
    Settles { c with asked := n }.freed past queue :=
  h.congr rfl rfl rfl rfl rfl (fun hr => by cases hr) (fun _ => rfl) (fun hr => by cases hr)

theorem Settles.asyncWrite (h : Settles c past queue) (lwip : env.Accepts) (careful : Careful policy)
    (open_ : c.closing = false) :
    ∃ c' past' queue', asyncTcpWriteCb env (reentrant env policy (depth + 1)) c = .ok () c' ∧
      Settles c' past' queue' := by
  have hread : ∀ reading c, (reentrant env policy (depth + 1)).readCb reading c = .ok () c :=
    reentrant_read
  by_cases hclose : (∀ req ∈ queue, req.Complete) ∧ queue ≠ [] ∧
      policy (c.reqs.length - 1) .ok (c.popped past queue) = true
  · -- the last callback closes the client, whose queue is empty by then
    obtain ⟨hall, hsome, hpolicy⟩ := hclose
    have hpopped : Headed (c.popped past queue) (past ++ queue) [] := by
      have hqueued : Queued c past (queue ++ []) := by rw [List.append_nil]; exact h.queued
      have hsettled := hqueued.settled
      exact ⟨⟨hsettled.reqs, trivial, hsettled.at.live⟩, hsettled.cur, hsettled.called⟩
    obtain ⟨c', hrun, hqueued, hclosed, hclosing, hread'⟩ :=
      tcpClose_headed env (reentrant env policy depth) hpopped open_ (fun hopen => (h.opened hopen).1) reentrant_read (.inl rfl)
    rw [List.append_nil] at hqueued
    have hlast : (reentrant env policy (depth + 1)).writeCb (c.reqs.length - 1) .ok
        (c.popped past queue) = .ok () c' := by
      rw [reentrant_write, if_pos hpolicy, hrun]
    refine ⟨_, _, [], asyncTcpWriteCb_closes h.queued careful.behind hread hall hsome hlast hqueued
      hclosed, settles_closed hqueued.headed.canceled hclosed rfl⟩
  · have hlast : (∀ req ∈ queue, req.Complete) → queue ≠ [] →
        (reentrant env policy (depth + 1)).writeCb (c.reqs.length - 1) .ok (c.popped past queue) =
          .ok () (c.popped past queue) := by
      intro hall hsome
      rw [reentrant_write, if_neg fun hpolicy => hclose ⟨hall, hsome, hpolicy⟩]
    by_cases hclosed : c.closed = true
    · -- the peer has closed: what is not complete is cancelled
      obtain ⟨done, rest, rfl, -, -, hloop, htail⟩ :=
        complete_queued h.queued careful.behind hlast
      have hcancel := cancelReqs_headed h.queued.settled.headed hread (.inr careful.canceled)
      refine ⟨_, _, [], ?_, settles_closed h.queued.settled.headed.canceled hclosed rfl⟩
      have hclosed' : (c.settled past done rest).closed = true := hclosed
      rw [asyncTcpWriteCb, bind_ok (get_apply c), bind_ok hloop, bind_ok htail,
        bind_ok (get_apply _), if_pos hclosed']
      exact hcancel
    · obtain ⟨hpcb, hledger, hroom⟩ := h.opened (Bool.eq_false_of_not_eq_true hclosed)
      obtain ⟨done, rest, rest', chunk, c', c'', rfl, hdone, -, hrun, hend, hwrote, hqueued, hadv,
          hordered⟩ :=
        asyncTcpWriteCb_open lwip (.inr hread) h.queued careful.behind hlast
          (Bool.eq_false_of_not_eq_true hclosed) hpcb h.ordered h.inBounds
      have hsnd : c'.sndBuf.toNat + chunk.length = c.sndBuf.toNat := hwrote.room
      rw [pendingSum_append, pendingSum_complete hdone] at hledger hroom
      have hpending := pendingSum_advancesAll hadv (by omega)
      have hwritten : c'.written = c.written ++ chunk := by rw [hwrote.frame]; rfl
      have hacked : c'.acked = c.acked := by rw [hwrote.frame]; rfl
      have hclosing : c'.closing = c.closing := by rw [hwrote.frame]; rfl
      have hsettles : Settles c' (past ++ done) rest' := by
        refine ⟨hqueued, hordered, hadv.inBounds (List.forall_mem_append.mp h.inBounds).2, ?_, ?_,
          ?_⟩
        · intro _
          refine ⟨?_, ?_, ?_⟩
          · rw [hwrote.frame]
            exact hpcb
          · rw [hwritten, hacked, hpending, List.length_append]
            omega
          · rw [hpending]
            omega
        · rw [hwrote.frame]
          exact h.reading
        · rw [hclosing, open_]
          intro hfalse
          cases hfalse
      refine ⟨c'', past ++ done, rest', hrun, ?_⟩
      rcases hend with rfl | ⟨rfl, -⟩
      · exact hsettles
      · exact hsettles.freed _

theorem Settles.write {bufs : List Bytes} (h : Settles c past queue) (hbufs : bufs ≠ [])
    (open_ : c.closing = false) :
    ∃ ret c' queue', write env bufs c = .ok ret c' ∧ Settles c' past queue' := by
  obtain ⟨queue', c', hrun, hqueued, -, hpending, hordered, hbounds, hframe⟩ :=
    write_ordered env h.queued h.ordered h.inBounds hbufs
  have hwritten : c'.written = c.written := by rw [hframe]
  have hacked : c'.acked = c.acked := by rw [hframe]
  have hsnd : c'.sndBuf = c.sndBuf := by rw [hframe]
  have hclosing : c'.closing = c.closing := by rw [hframe]
  refine ⟨_, c', _, hrun, hqueued, hordered, hbounds, ?_, ?_, ?_⟩
  · rw [hwritten, hacked, hpending, hsnd, hframe]
    exact h.opened
  · rw [hframe]
    exact h.reading
  · rw [hclosing, open_]
    intro hfalse
    cases hfalse

theorem Settles.sent {len sndBuf : UInt16} (h : Settles c past queue) (opened : c.closed = false)
    (hlen : len ≠ 0) (hacked : c.acked + len.toNat ≤ c.written.length)
    (room : c.written.length - (c.acked + len.toNat) + sndBuf.toNat ≤ 65535) :
    ∃ ret c' queue',
      clientSentFunc env len { c with sndBuf, acked := c.acked + len.toNat } = .ok ret c' ∧
      Settles c' past queue' := by
  obtain ⟨hpcb, hledger, -⟩ := h.opened opened
  have henough : len.toNat ≤ pendingSum queue := by omega
  have hqueued : Queued { c with sndBuf, acked := c.acked + len.toNat } past queue :=
    h.queued.congr h.queued.reqs rfl rfl rfl rfl
  obtain ⟨c', hrun, hqueued', hframe⟩ := clientSentFunc_queued env hqueued opened hlen henough
  have hkept := kept_debit len.toNat queue
  have hsum := pendingSum_debit henough
  have hwritten : c'.written = c.written := by rw [hframe]
  have hacked' : c'.acked = c.acked + len.toNat := by rw [hframe]
  have hsnd : c'.sndBuf = sndBuf := by rw [hframe]
  refine ⟨_, c', _, hrun, hqueued', h.ordered.kept hkept,
    forall_kept hkept Kept.inBounds h.inBounds, ?_, ?_, ?_⟩
  · intro _
    refine ⟨?_, ?_, ?_⟩
    · rw [hframe]
      exact hpcb
    · rw [hwritten, hacked']
      omega
    · rw [hsnd]
      omega
  · rw [hframe]
    exact h.reading
  · intro hclosing
    rw [hframe] at hclosing
    have hclosed := (h.closing hclosing).2
    rw [opened] at hclosed
    cases hclosed

theorem Settles.recv {cb : Callbacks} {p : Option Bytes} (h : Settles c past queue)
    (silentRead : ∀ reading c, cb.readCb reading c = .ok () c) (opened : c.closed = false)
    (hp : p ≠ some []) : ∃ ret c', clientRecvFunc env cb p c = .ok ret c' ∧ Settles c' past queue := by
  rw [clientRecvFunc, bind_ok (get_apply c), if_neg (by simp [opened])]
  cases p with
  | none =>
    obtain ⟨ret, hrun⟩ := clientCloseFunc_silent silentRead env opened (h.opened opened).1
    exact ⟨ret, _, hrun, h.freed _⟩
  | some data =>
    have hdata : ¬ data.length = 0 := fun hlen => hp (by rw [List.length_eq_zero_iff.mp hlen])
    dsimp only
    rw [if_neg hdata, ite_run]
    split
    · exact ⟨_, c, rfl, h⟩
    · exact ⟨_, _, rfl, h.congr rfl rfl rfl rfl rfl h.reading id fun _ => ⟨rfl, rfl, rfl, rfl⟩⟩

theorem Settles.readStart {cb : Callbacks} (h : Settles c past queue)
    (silentRead : ∀ reading c, cb.readCb reading c = .ok () c) :
    ∃ ret c', readStart env cb c = .ok ret c' ∧ Settles c' past queue := by
  rw [Uvl.readStart, bind_ok (get_apply c), ite_run]
  split
  · exact ⟨false, c, rfl, h⟩
  · rw [ite_run]
    split
    · rw [bind_ok (callReadCb_silent silentRead .eof)]
      exact ⟨true, _, rfl, h.congr rfl rfl rfl rfl rfl h.reading id fun _ => ⟨rfl, rfl, rfl, rfl⟩⟩
    · rename_i hopen
      rw [ask, bind_ok (modifyGet_apply _ c), ite_run]
      split
      · exact ⟨true, _, rfl, h.congr rfl rfl rfl rfl rfl
          (fun _ => Bool.eq_false_of_not_eq_true hopen) id fun _ => ⟨rfl, rfl, rfl, rfl⟩⟩
      · exact ⟨false, _, rfl, h.congr rfl rfl rfl rfl rfl h.reading id
          fun _ => ⟨rfl, rfl, rfl, rfl⟩⟩

theorem Settles.asyncRead {cb : Callbacks} (h : Settles c past queue)
    (silentRead : ∀ reading c, cb.readCb reading c = .ok () c) :
    ∃ c', asyncTcpReadCb cb c = .ok () c' ∧ Settles c' past queue := by
  have hreport : ∀ reading, ∃ c', callReadCb cb reading c = .ok () c' ∧ Settles c' past queue := by
    intro reading
    exact ⟨_, callReadCb_silent silentRead reading,
      h.congr rfl rfl rfl rfl rfl h.reading id fun _ => ⟨rfl, rfl, rfl, rfl⟩⟩
  rw [asyncTcpReadCb, bind_ok (get_apply c), ite_run]
  split
  · rename_i hready
    cases cb.allocCb 65536 with
    | none => exact hreport .noBufs
    | some len =>
      dsimp only
      rw [ite_run]
      split
      · exact hreport .noBufs
      · have hpcb : c.pcb = true := (h.opened (h.reading hready.1)).1
        rw [bind_ok (usePcb_apply hpcb), bind_ok (modify_apply _ c), callReadCb_silent silentRead]
        exact ⟨_, rfl, h.congr rfl rfl rfl rfl rfl h.reading id fun _ => ⟨rfl, rfl, rfl, rfl⟩⟩
  · exact ⟨c, rfl, h⟩

theorem Settles.handleClosed (h : Settles c past queue) (hclosing : c.closing = true) :
    ∃ c', tcpCloseHandleCb c = .ok () c' ∧ Settles c' past queue := by
  obtain ⟨rfl, hclosed⟩ := h.closing hclosing
  have hcur : c.curWrite = none := by rw [h.queued.cur, h.queued.at.link_nil]
  have htail : c.tailWrite = none := h.queued.tail
  rw [tcpCloseHandleCb, bind_ok (modify_apply _ c), bind_ok (get_apply _), ite_run]
  split
  · refine ⟨_, rfl, h.congr rfl hcur.symm htail.symm rfl rfl (fun hr => by cases hr) id ?_⟩
    intro hopen
    rw [hclosed] at hopen
    cases hopen
  · exact ⟨_, rfl, h.congr rfl rfl rfl rfl rfl h.reading id fun _ => ⟨rfl, rfl, rfl, rfl⟩⟩

end Steps

/-- One step of a connection with careful callbacks. -/
theorem Settles.step {c : Client} {past queue : List WriteReq} {env : Env} {cb : Callbacks}
    {event : Event} (h : Settles c past queue) (legal : MayClose Careful Env.Accepts c env cb event) :
    ∃ c' past' queue', handle env cb event c = .ok () c' ∧ Settles c' past' queue' := by
  obtain ⟨hcall, lwip, policy, depth, careful, rfl⟩ := legal
  have hread : ∀ reading c, (reentrant env policy (depth + 1)).readCb reading c = .ok () c :=
    reentrant_read
  cases event with
  | write bufs =>
    obtain ⟨ret, c', queue', hrun, h'⟩ := h.write hcall.2 hcall.1
    exact ⟨c', past, queue', by rw [handle, bind_ok hrun]; rfl, h'⟩
  | asyncWrite => exact h.asyncWrite lwip careful hcall
  | sent len sndBuf =>
    obtain ⟨hopen, hlen, hacked, hroom⟩ := hcall
    obtain ⟨ret, c', queue', hrun, h'⟩ := h.sent hopen hlen hacked hroom
    exact ⟨c', past, queue', by rw [handle, bind_ok (modify_apply _ c), bind_ok hrun]; rfl, h'⟩
  | recv p =>
    obtain ⟨ret, c', hrun, h'⟩ := h.recv hread hcall.1 hcall.2
    exact ⟨c', past, queue, by rw [handle, bind_ok hrun]; rfl, h'⟩
  | err => exact ⟨_, past, queue, clientFreed_silent hread, h.freed c.asked⟩
  | readStart =>
    obtain ⟨ret, c', hrun, h'⟩ := h.readStart hread
    exact ⟨c', past, queue, by rw [handle, bind_ok hrun]; rfl, h'⟩
  | readStop =>
    exact ⟨_, past, queue, rfl, h.congr rfl rfl rfl rfl rfl (fun hr => by cases hr) id
      fun _ => ⟨rfl, rfl, rfl, rfl⟩⟩
  | asyncRead =>
    obtain ⟨c', hrun, h'⟩ := h.asyncRead hread
    exact ⟨c', past, queue, hrun, h'⟩
  | close =>
    obtain ⟨c', hrun, hqueued, hclosed, -, hread'⟩ :=
      tcpClose_headed env (reentrant env policy (depth + 1)) h.queued.headed hcall
        (fun hopen => (h.opened hopen).1) hread (.inr careful.canceled)
    exact ⟨c', _, [], hrun, settles_closed hqueued hclosed hread'⟩
  | handleClosed =>
    obtain ⟨c', hrun, h'⟩ := h.handleClosed hcall
    exact ⟨c', past, queue, hrun, h'⟩

/-- Over every run with careful callbacks each request has its callback once, by the end of
the connection, and no call inspects a request after its callback. -/
theorem write_completion_once (c : Client) (life : Life (MayClose Careful Env.Accepts) c) :
    Completes c ∧ ∀ env cb event, MayClose Careful Env.Accepts c env cb event →
      ∃ c', handle env cb event c = .ok () c' := by
  have hsettles : ∃ past queue, Settles c past queue := by
    induction life with
    | init sndBuf => exact ⟨[], [], settles_init sndBuf⟩
    | step env cb event _ allowed ih =>
      obtain ⟨past, queue, h⟩ := ih
      obtain ⟨c', past', queue', hrun, h'⟩ := h.step allowed
      rw [hrun]
      exact ⟨past', queue', h'⟩
  obtain ⟨past, queue, h⟩ := hsettles
  refine ⟨h.completes, ?_⟩
  intro env cb event legal
  obtain ⟨c', -, -, hrun, -⟩ := h.step legal
  exact ⟨c', hrun⟩

/-! ## Two connections -/

/-- A callback that closes when its request was the last. -/
def closeWhenLast (_ : Nat) (status : Status) (c : Client) : Bool :=
  decide (status = .ok) && c.curWrite.isNone && !c.closing

theorem careful_closeWhenLast : Careful closeWhenLast := by
  intro id status c h
  simp only [closeWhenLast, Bool.and_eq_true, decide_eq_true_eq, Option.isNone_iff_eq_none,
    Bool.not_eq_true'] at h
  exact ⟨h.1.1, h.1.2, h.2⟩

/-- A callback that always closes. -/
def closeAlways (_ : Nat) (_ : Status) (_ : Client) : Bool := true

/-- The client after a call, with callbacks that close by `policy`. -/
def closeNext (policy : Nat → Status → Client → Bool) (c : Client) (event : Event) : Client :=
  after (handle .calm (reentrant .calm policy 3) event c)

theorem life_closeNext {careful : (Nat → Status → Client → Bool) → Prop} {lwip : Env → Prop}
    {policy : Nat → Status → Client → Bool} {c : Client} {event : Event} (hpolicy : careful policy)
    (hlwip : lwip .calm) (life : Life (MayClose careful lwip) c) (hcall : LifeCall c event) :
    Life (MayClose careful lwip) (closeNext policy c event) :=
  .step .calm _ event life ⟨hcall, hlwip, policy, 2, hpolicy, rfl⟩

/-- One request, written and acknowledged; its callback closes the client. -/
theorem write_completion_once_last :
    Completes (closeNext closeWhenLast (closeNext closeWhenLast (closeNext closeWhenLast
      (closeNext closeWhenLast (Client.init 8) (.write [[1]])) .asyncWrite) (.sent 1 8))
      .asyncWrite) := by
  have hlwip : Env.calm.Accepts := ⟨fun _ => .inl rfl⟩
  refine (write_completion_once _ ?_).1
  refine life_closeNext careful_closeWhenLast hlwip (life_closeNext careful_closeWhenLast hlwip
    (life_closeNext careful_closeWhenLast hlwip (life_closeNext careful_closeWhenLast hlwip
      (.init 8) ?_) ?_) ?_) ?_
  · exact ⟨rfl, by decide⟩
  · change Client.closing _ = false
    decide
  · exact ⟨by decide, by decide, by decide, by decide⟩
  · change Client.closing _ = false
    decide

/-- Two requests are written, and the first is acknowledged. -/
def twoRequests : Client :=
  closeNext closeAlways (closeNext closeAlways (closeNext closeAlways
    (closeNext closeAlways (Client.init 8) (.write [[1]])) (.write [[2]])) .asyncWrite) (.sent 1 8)

/-- The fault an execution stops with. -/
def faultOf : EStateM.Result Fault Client Unit → Option Fault
  | .ok _ _ => none
  | .error fault _ => some fault

/-- The callback of the first request closes the client, which cancels the second one. Its
callback closes again, and the nested cancel inspects it after its callback. -/
theorem reentrant_close_inspects_freed :
    Life (MayClose (fun _ => True) fun _ => True) twoRequests ∧
      MayClose (fun _ => True) (fun _ => True) twoRequests .calm (reentrant .calm closeAlways 3)
        .asyncWrite ∧
      faultOf (handle .calm (reentrant .calm closeAlways 3) .asyncWrite twoRequests) =
        some .stale := by
  have hopen : twoRequests.closing = false := by decide
  refine ⟨?_, ⟨hopen, trivial, closeAlways, 2, trivial, rfl⟩, by decide⟩
  refine life_closeNext trivial trivial (life_closeNext trivial trivial (life_closeNext trivial
    trivial (life_closeNext trivial trivial (.init 8) ?_) ?_) ?_) ?_
  · exact ⟨rfl, by decide⟩
  · exact ⟨by decide, by decide⟩
  · change Client.closing _ = false
    decide
  · exact ⟨by decide, by decide, by decide, by decide⟩

end Grid0Relay.Uvl
