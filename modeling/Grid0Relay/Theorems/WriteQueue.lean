import Grid0Relay.Logic.WriteStream

/-!
# The write queue as a byte stream

What reaches lwIP is the concatenation of the submitted requests, cut off somewhere; the
pending counts add up to the unacknowledged bytes; and the completion callbacks fire in
order, after the last byte. `total_len` is 32 bits wide, so a request of 4 GiB looks
complete before it starts.
-/

namespace Grid0Relay.Uvl

open Lib Lib.Exec Lib.Fifo

/-! ## Statement -/

/-- The requests reached from a pointer. -/
def follow (reqs : List WriteReq) : Nat → Option Nat → List WriteReq
  | 0, _ => []
  | _, none => []
  | fuel + 1, some id =>
    match reqs[id]? with
    | none => []
    | some req => req :: follow reqs fuel req.next

/-- The queue from `cur_write` on. -/
def Client.queue (c : Client) : List WriteReq := follow c.reqs c.reqs.length c.curWrite

/-- Callbacks that leave the client alone. -/
def Callbacks.Silent (cb : Callbacks) : Prop := ∀ id status c, cb.writeCb id status c = .ok () c

/-- A client that only writes: requests with a buffer, the deferred callback, and
acknowledgements of written bytes. -/
def WritesOnly (fits : List Bytes → Prop) (c : Client) (env : Env) (cb : Callbacks) : Event → Prop
  | .write bufs => bufs ≠ [] ∧ fits bufs
  | .asyncWrite => env.Writes ∧ cb.Silent
  | .sent len _ => len ≠ 0 ∧ c.acked + len.toNat ≤ c.written.length
  | _ => False

/-- What the write queue promises. The callbacks are those of the first requests, each
once, in order and with status 0, and the bytes up to the end of each are acknowledged. -/
structure Streams (c : Client) : Prop where
  written : c.written <+: c.reqs.flatMap WriteReq.data
  ledger : pendingSum c.queue + c.acked = c.written.length
  called : c.called = (List.range c.called.length).map fun id => (id, .ok)
  complete : ∀ id < c.called.length,
    ((c.reqs.take (id + 1)).flatMap WriteReq.data).length ≤ c.acked

/-- The data of a request fits `total_len`. -/
def Fits (bufs : List Bytes) : Prop := bufs.flatten.length < 2 ^ 32

/-! ## The invariant -/

/-- A client whose queue is written in order. -/
structure Flows (c : Client) (past queue : List WriteReq) : Prop where
  queued : Queued c past queue
  opened : c.closed = false ∧ c.pcb = true
  ordered : Ordered queue
  inBounds : ∀ req ∈ queue, req.InBounds
  wf : ∀ req ∈ queue, req.Wf
  written : c.written = past.flatMap WriteReq.data ++ queue.flatMap WriteReq.progress
  ledger : c.written.length = c.acked + pendingSum queue
  statuses : ∀ call ∈ c.called, call.2 = .ok

theorem follow_at {c : Client} {front ahead : List WriteReq} {fuel : Nat} (at_ : At c front ahead)
    (hfuel : ahead.length ≤ fuel) :
    follow c.reqs fuel (link c.reqs.length front.length) = ahead := by
  induction ahead generalizing front fuel with
  | nil =>
    rw [at_.link_nil]
    cases fuel <;> rfl
  | cons req ahead ih =>
    cases fuel with
    | zero => cases hfuel
    | succ fuel =>
      have hget : c.reqs[front.length]? = some req := by
        rw [at_.reqs, List.getElem?_append_right (Nat.le_refl _), Nat.sub_self]
        rfl
      have hrest := ih at_.advance (Nat.le_of_succ_le_succ hfuel)
      rw [List.length_append] at hrest
      rw [at_.link_cons, follow, hget]
      dsimp only
      rw [at_.next]
      exact congrArg (req :: ·) hrest

theorem Queued.queue_eq {c : Client} {past queue : List WriteReq} (h : Queued c past queue) :
    c.queue = queue := by
  rw [Client.queue, h.cur]
  apply follow_at h.at
  rw [h.reqs, List.length_append]
  omega

/-- A request without unsent buffers is through. -/
theorem WriteReq.Wf.finished {req : WriteReq} (wf : req.Wf)
    (hdone : ¬ req.sentBufs < req.sendBufs.length) : req.totalSent.toNat = req.data.length := by
  have hall : req.sendBufs.length ≤ req.sentBufs := Nat.le_of_not_lt hdone
  have hbound := wf.bound
  rw [List.getD_eq_getElem?_getD, List.getElem?_eq_none hall, Option.getD_none, List.length_nil]
    at hbound
  have hposition := wf.position
  rw [List.take_of_length_le hall] at hposition
  rw [WriteReq.data]
  omega

theorem WriteReq.Wf.length_progress {req : WriteReq} (wf : req.Wf) :
    req.progress.length = req.totalSent.toNat := by
  rw [WriteReq.progress, List.length_take, Nat.min_eq_left]
  by_cases hunsent : req.sentBufs < req.sendBufs.length
  · have hbuf := List.getElem?_eq_getElem hunsent
    have hroom := wf.room (k := 0) hbuf (wf.sent_le hbuf)
    exact hroom.1
  · exact Nat.le_of_eq (wf.finished hunsent)

section Invariant

variable {c : Client} {past queue : List WriteReq}

theorem Flows.inOrder (h : Flows c past queue) :
    InOrder (fun req : WriteReq => req.data.length) (fun req => req.totalSent.toNat) queue := by
  refine h.ordered.imp_of_mem ?_
  intro req later hreq _ hfresh hmore
  dsimp only at hmore ⊢
  by_cases hunsent : req.sentBufs < req.sendBufs.length
  · rw [(hfresh hunsent).2.2]
    rfl
  · have hfull := (h.wf req hreq).finished hunsent
    omega

theorem pendingSum_le (wf : ∀ req ∈ queue, req.Wf) :
    pendingSum queue ≤ (queue.flatMap WriteReq.progress).length := by
  induction queue with
  | nil => exact Nat.le_refl _
  | cons req queue ih =>
    rw [List.forall_mem_cons] at wf
    have hrest := ih wf.2
    have hreq := wf.1.pending
    have hlen := wf.1.length_progress
    have hcons : pendingSum (req :: queue) = req.pending.toNat + pendingSum queue := rfl
    rw [hcons, List.flatMap_cons, List.length_append]
    omega

theorem Flows.streams (h : Flows c past queue) : Streams c := by
  have hlen : c.called.length = past.length := by
    have := congrArg List.length h.queued.called
    rwa [List.length_map, List.length_range] at this
  refine ⟨?_, ?_, ?_, ?_⟩
  · rw [h.written, h.queued.reqs, List.flatMap_append, List.prefix_append_right_inj]
    exact prefix_flatMap_take h.inOrder
  · rw [h.queued.queue_eq, h.ledger]
    omega
  · have hstatus : c.called.map (fun call => (call.1, Status.ok)) = c.called := by
      conv_rhs => rw [← List.map_id c.called]
      apply List.map_congr_left
      intro call hcall
      rw [← h.statuses call hcall]
      rfl
    rw [hlen, ← h.queued.called, List.map_map]
    exact hstatus.symm
  · intro id hid
    rw [hlen] at hid
    have htake : c.reqs.take (id + 1) = past.take (id + 1) := by
      rw [h.queued.reqs, List.take_append_of_le_length hid]
    have hsplit : ((past.take (id + 1)).flatMap WriteReq.data).length ≤
        (past.flatMap WriteReq.data).length := by
      conv_rhs => rw [← List.take_append_drop (id + 1) past, List.flatMap_append,
        List.length_append]
      omega
    have hledger := h.ledger
    have hpending := pendingSum_le h.wf
    rw [h.written, List.length_append] at hledger
    rw [htake]
    omega

/-! ## Steps -/

theorem flows_init (sndBuf : UInt16) : Flows (Client.init sndBuf) [] [] := by
  refine ⟨⟨rfl, rfl, rfl, trivial, rfl⟩, ⟨rfl, rfl⟩, .nil, ?_, ?_, rfl, rfl, ?_⟩
  · simp
  · simp
  · intro call hcall
    cases hcall

theorem toNat_totalLen (bufs : List Bytes) (start : UInt32) :
    (bufs.foldl (fun len buf => len + UInt32.ofNat buf.length) start).toNat =
      (start.toNat + bufs.flatten.length) % 2 ^ 32 := by
  induction bufs generalizing start with
  | nil =>
    have := start.toNat_lt
    rw [List.foldl_nil, List.flatten_nil, List.length_nil, Nat.add_zero, Nat.mod_eq_of_lt this]
  | cons buf bufs ih =>
    rw [List.foldl_cons, ih, UInt32.toNat_add, UInt32.toNat_ofNat', List.flatten_cons,
      List.length_append]
    omega

theorem wf_init {bufs : List Bytes} (fits : Fits bufs) : (WriteReq.init bufs).Wf := by
  refine ⟨?_, rfl, Nat.zero_le _, Nat.le_refl _⟩
  have hsum := toNat_totalLen bufs 0
  rw [UInt32.toNat_zero, Nat.zero_add, Nat.mod_eq_of_lt fits] at hsum
  exact hsum

theorem Flows.write {env : Env} {bufs : List Bytes} (h : Flows c past queue) (hbufs : bufs ≠ [])
    (fits : Fits bufs) :
    ∃ ret c' queue', write env bufs c = .ok ret c' ∧ Flows c' past queue' := by
  obtain ⟨queue', c', hrun, hqueued, hkept, hpending, hordered, hbounds, hframe⟩ :=
    write_ordered env h.queued h.ordered h.inBounds hbufs
  have hprogress : queue'.flatMap WriteReq.progress = queue.flatMap WriteReq.progress :=
    flatMap_kept _ hkept Kept.progress
  have hwritten : c'.written = c.written := by rw [hframe]
  have hacked : c'.acked = c.acked := by rw [hframe]
  refine ⟨_, c', queue' ++ [WriteReq.init bufs], hrun, hqueued, ?_, hordered, hbounds, ?_, ?_, ?_,
    ?_⟩
  · rw [hframe]
    exact h.opened
  · rw [List.forall_mem_append]
    refine ⟨forall_kept hkept Kept.wf h.wf, ?_⟩
    intro req hreq
    rw [List.mem_singleton.mp hreq]
    exact wf_init fits
  · rw [hwritten, h.written, List.flatMap_append, hprogress]
    simp [WriteReq.progress, WriteReq.init]
  · rw [hwritten, hacked, hpending, h.ledger]
  · rw [hframe]
    exact h.statuses

theorem Flows.sent {env : Env} {len sndBuf : UInt16} (h : Flows c past queue) (hlen : len ≠ 0)
    (hacked : c.acked + len.toNat ≤ c.written.length) :
    ∃ ret c' queue',
      clientSentFunc env len { c with sndBuf, acked := c.acked + len.toNat } = .ok ret c' ∧
      Flows c' past queue' := by
  have hledger := h.ledger
  have henough : len.toNat ≤ pendingSum queue := by omega
  have hqueued : Queued { c with sndBuf, acked := c.acked + len.toNat } past queue :=
    h.queued.congr h.queued.reqs rfl rfl rfl rfl
  obtain ⟨c', hrun, hqueued', hframe⟩ :=
    clientSentFunc_queued env hqueued h.opened.1 hlen henough
  have hkept := kept_debit len.toNat queue
  have hprogress : (debit len.toNat queue).flatMap WriteReq.progress =
      queue.flatMap WriteReq.progress :=
    flatMap_kept _ hkept Kept.progress
  refine ⟨_, c', debit len.toNat queue, hrun, hqueued', ?_, h.ordered.kept hkept,
    forall_kept hkept Kept.inBounds h.inBounds, forall_kept hkept Kept.wf h.wf, ?_, ?_, ?_⟩
  · rw [hframe]
    exact h.opened
  · have hwritten : c'.written = c.written := by rw [hframe]
    rw [hwritten, h.written, hprogress]
  · have hwritten : c'.written = c.written := by rw [hframe]
    have hacked' : c'.acked = c.acked + len.toNat := by rw [hframe]
    have hsum := pendingSum_debit henough
    rw [hwritten, hacked']
    omega
  · rw [hframe]
    exact h.statuses

/-- A queue that advances in order passes its chunks on behind what it had written. -/
theorem progress_advancesAll {queue' : List WriteReq} {chunk : Bytes}
    (hadv : AdvancesAll queue queue' chunk) (ordered : Ordered queue)
    (wf : ∀ req ∈ queue, req.Wf) :
    queue'.flatMap WriteReq.progress = queue.flatMap WriteReq.progress ++ chunk ∧
      pendingSum queue' = pendingSum queue + chunk.length ∧ ∀ req ∈ queue', req.Wf := by
  induction hadv with
  | nil => exact ⟨rfl, rfl, wf⟩
  | @cons req req' queue queue' chunk chunk' head tail ih =>
    rw [List.forall_mem_cons] at wf
    obtain ⟨hfirst, hrest⟩ := List.pairwise_cons.mp ordered
    obtain ⟨hprogress, hpending, hwf⟩ := ih hrest wf.2
    obtain ⟨hwf', hprogress', hpending'⟩ := head.wf wf.1
    have hcons : ∀ r q, pendingSum (r :: q) = r.pending.toNat + pendingSum q := fun _ _ => rfl
    -- a request that writes has untouched requests behind it
    have hcomm : chunk ++ queue.flatMap WriteReq.progress =
        queue.flatMap WriteReq.progress ++ chunk := by
      by_cases hunsent : req.sentBufs < req.sendBufs.length
      · have hnone : queue.flatMap WriteReq.progress = [] :=
          flatMap_take_zero fun later hlater => by
            rw [(hfirst later hlater hunsent).2.2]
            rfl
        rw [hnone, List.append_nil, List.nil_append]
      · have hlen := congrArg List.length hprogress'
        have hdata : req'.data = req.data := by rw [WriteReq.data, head.sendBufs, WriteReq.data]
        have hle : req'.progress.length ≤ req.data.length := by
          rw [← hdata]
          exact List.length_take_le' _ _
        rw [List.length_append, wf.1.length_progress, wf.1.finished hunsent] at hlen
        have hchunk : chunk = [] := List.length_eq_zero_iff.mp (by omega)
        rw [hchunk, List.nil_append, List.append_nil]
    refine ⟨?_, ?_, List.forall_mem_cons.mpr ⟨hwf', hwf⟩⟩
    · rw [List.flatMap_cons, List.flatMap_cons, hprogress', hprogress, List.append_assoc,
        List.append_assoc, ← List.append_assoc chunk, hcomm, List.append_assoc]
    · rw [hcons, hcons, hpending', hpending, List.length_append]
      omega

theorem Flows.asyncWrite {env : Env} {cb : Callbacks} (h : Flows c past queue)
    (lwip : env.Writes) (silent : cb.Silent) :
    ∃ c' past' queue', asyncTcpWriteCb env cb c = .ok () c' ∧ Flows c' past' queue' := by
  obtain ⟨done, rest, rest', chunk, c', c'', hsplit, hdone, -, hrun, hend, hwrote, hqueued, hadv,
      hordered⟩ :=
    asyncTcpWriteCb_open lwip.toAccepts (.inl lwip.tcpOutput) h.queued
      (fun id c _ => silent id .ok c) (fun _ _ => silent _ _ _) h.opened.1 h.opened.2 h.ordered
      h.inBounds
  obtain rfl := (hend.resolve_right fun hfail => hfail.2 lwip.tcpOutput).symm
  subst hsplit
  obtain ⟨-, hrestOrdered, -⟩ := List.pairwise_append.mp h.ordered
  obtain ⟨hwfDone, hwfRest⟩ := List.forall_mem_append.mp h.wf
  obtain ⟨-, hbounds⟩ := List.forall_mem_append.mp h.inBounds
  obtain ⟨hprogress, hpending, hwf⟩ := progress_advancesAll hadv hrestOrdered hwfRest
  have hwritten : c'.written = c.written ++ chunk := by rw [hwrote.frame]; rfl
  have hacked : c'.acked = c.acked := by rw [hwrote.frame]; rfl
  -- the completed requests are written to the end and have nothing pending
  have hdata : done.flatMap WriteReq.progress = done.flatMap WriteReq.data := by
    apply List.flatMap_congr
    intro req hreq
    have hsize := (hwfDone req hreq).size
    rw [WriteReq.progress, (hdone req hreq).1, hsize, List.take_length]
  have hzero := pendingSum_complete hdone
  refine ⟨_, past ++ done, rest', hrun, hqueued, ?_, hordered, hadv.inBounds hbounds, hwf, ?_, ?_,
    ?_⟩
  · rw [hwrote.frame]
    exact h.opened
  · rw [hwritten, h.written, hprogress, List.flatMap_append, List.flatMap_append, hdata,
      List.append_assoc, List.append_assoc, List.append_assoc]
  · have hledger := h.ledger
    rw [pendingSum_append, hzero] at hledger
    rw [hwritten, hacked, List.length_append, hpending]
    omega
  · rw [hwrote.frame]
    intro call hcall
    rcases List.mem_append.mp hcall with hold | hnew
    · exact h.statuses call hold
    · obtain ⟨id, -, rfl⟩ := List.mem_map.mp hnew
      rfl

end Invariant

theorem Flows.step {c : Client} {past queue : List WriteReq} {env : Env} {cb : Callbacks}
    {event : Event} (h : Flows c past queue) (legal : WritesOnly Fits c env cb event) :
    ∃ c' past' queue', handle env cb event c = .ok () c' ∧ Flows c' past' queue' := by
  cases event with
  | write bufs =>
    obtain ⟨ret, c', queue', hrun, hflows⟩ := h.write legal.1 legal.2
    exact ⟨c', past, queue', by rw [handle, bind_ok hrun]; rfl, hflows⟩
  | asyncWrite => exact h.asyncWrite legal.1 legal.2
  | sent len sndBuf =>
    obtain ⟨ret, c', queue', hrun, hflows⟩ := h.sent legal.1 legal.2
    refine ⟨c', past, queue', ?_, hflows⟩
    rw [handle, bind_ok (modify_apply _ c), bind_ok hrun]
    rfl
  | _ => exact legal.elim

/-- Over every run whose requests fit the 32-bit counters, the queue is a byte stream and
no call faults: `uvl_client_sent_func` finds every acknowledged byte in the queue. -/
theorem write_queue_streams (c : Client) (life : Life (WritesOnly Fits) c) :
    Streams c ∧ ∀ env cb event, WritesOnly Fits c env cb event →
      ∃ c', handle env cb event c = .ok () c' := by
  have hflows : ∃ past queue, Flows c past queue := by
    induction life with
    | init sndBuf => exact ⟨[], [], flows_init sndBuf⟩
    | step env cb event _ allowed ih =>
      obtain ⟨past, queue, h⟩ := ih
      obtain ⟨c', past', queue', hrun, h'⟩ := h.step allowed
      rw [hrun]
      exact ⟨past', queue', h'⟩
  obtain ⟨past, queue, h⟩ := hflows
  refine ⟨h.streams, ?_⟩
  intro env cb event legal
  obtain ⟨c', -, -, hrun, -⟩ := h.step legal
  exact ⟨c', hrun⟩

theorem calm_writes : Env.calm.Writes := ⟨⟨fun _ => .inl rfl⟩, fun _ => rfl⟩

/-- A connection with this send buffer that submits one request and takes its first turn. -/
def firstTurn (sndBuf : UInt16) (bufs : List Bytes) : Client :=
  after (handle .calm (.quiet some) .asyncWrite
    (after (handle .calm (.quiet some) (.write bufs) (Client.init sndBuf))))

theorem life_firstTurn {fits : List Bytes → Prop} (sndBuf : UInt16) {bufs : List Bytes}
    (hbufs : bufs ≠ []) (hfits : fits bufs) : Life (WritesOnly fits) (firstTurn sndBuf bufs) :=
  .step _ _ .asyncWrite (.step _ _ (.write bufs) (.init sndBuf) ⟨hbufs, hfits⟩)
    ⟨calm_writes, fun _ _ _ => rfl⟩

theorem write_queue_streams_short :
    Streams (firstTurn 3 [[1, 2], [3, 4]]) ∧ (firstTurn 3 [[1, 2], [3, 4]]).written = [1, 2, 3] :=
  ⟨(write_queue_streams _ (life_firstTurn 3 (by decide) (by rw [Fits]; decide))).1,
    by decide⟩

/-- A request of a multiple of 4 GiB completes before a byte of it is written. -/
theorem firstTurn_not_streams {sndBuf : UInt16} {bufs : List Bytes} (hbufs : bufs ≠ [])
    (hwraps : bufs.flatten.length % 2 ^ 32 = 0) (hpos : 0 < bufs.flatten.length) :
    ¬ Streams (firstTurn sndBuf bufs) := by
  obtain ⟨queue, c, hrun, hqueued, hbody, hframe⟩ :=
    write_queued .calm bufs (flows_init sndBuf).queued
  rw [List.map_nil, List.map_eq_nil_iff] at hbody
  subst hbody
  rw [List.nil_append] at hqueued
  have hcomplete : (WriteReq.init bufs).Complete := by
    refine ⟨?_, rfl⟩
    apply UInt32.toNat_inj.mp
    have hsum := toNat_totalLen bufs 0
    rw [UInt32.toNat_zero, Nat.zero_add, hwraps] at hsum
    exact hsum.symm
  have hbounds : ∀ req ∈ [WriteReq.init bufs], req.InBounds := by
    intro req hreq
    rw [List.mem_singleton.mp hreq]
    exact ⟨Nat.zero_le _, List.length_pos_iff.mpr hbufs⟩
  have hquiet : ∀ id c, c.curWrite ≠ none →
      (Callbacks.quiet some).writeCb id .ok c = .ok () c := fun _ _ _ => rfl
  obtain ⟨done, rest, rest', chunk, c', c'', hsplit, -, hhead, hrun', hend, hwrote, hqueued', hadv,
      -⟩ :=
    asyncTcpWriteCb_open calm_writes.toAccepts (.inl calm_writes.tcpOutput) hqueued hquiet
      (fun _ _ => rfl) (by rw [hframe]; rfl) (by rw [hframe]; rfl) (List.pairwise_singleton _ _)
      hbounds
  obtain rfl := (hend.resolve_right fun hfail => hfail.2 calm_writes.tcpOutput).symm
  have hturn : firstTurn sndBuf bufs = c' := by
    have hwrite : handle .calm (.quiet some) (.write bufs) (Client.init sndBuf) = .ok () c := by
      rw [handle, bind_ok hrun]
      rfl
    rw [firstTurn, hwrite, after_ok, handle, hrun', after_ok]
  cases done with
  | nil =>
    rw [List.nil_append] at hsplit
    subst hsplit
    exact absurd hcomplete (hhead _ rfl)
  | cons req done =>
    obtain ⟨rfl, hnil⟩ := List.cons.inj hsplit
    obtain ⟨rfl, rfl⟩ := List.append_eq_nil_iff.mp hnil.symm
    cases hadv
    -- the callback has run, and nothing is acknowledged
    have hcalled : c'.called.length = 1 := by
      have := congrArg List.length hqueued'.called
      rwa [List.length_map, List.length_range] at this
    have hacked : c'.acked = 0 := by
      rw [hwrote.frame]
      change c.acked = 0
      rw [hframe]
      rfl
    rw [hturn]
    intro hstreams
    have hdata := hstreams.complete 0 (by omega)
    rw [hacked, hqueued'.reqs] at hdata
    have hreq : ([] ++ [WriteReq.init bufs] ++ [] : List WriteReq).take (0 + 1) =
        [WriteReq.init bufs] := rfl
    rw [hreq, List.flatMap_cons, List.flatMap_nil, List.append_nil] at hdata
    change bufs.flatten.length ≤ 0 at hdata
    omega

/-- A request of 4 GiB, whose `total_len` is zero. -/
theorem huge_request_completes_early :
    Life (WritesOnly fun _ => True) (firstTurn 3 [List.replicate (2 ^ 32) 0]) ∧
      ¬ Streams (firstTurn 3 [List.replicate (2 ^ 32) 0]) := by
  have hlen : [List.replicate (2 ^ 32) (0 : UInt8)].flatten.length = 2 ^ 32 := by
    rw [List.flatten_cons, List.flatten_nil, List.append_nil, List.length_replicate]
  refine ⟨life_firstTurn 3 (List.cons_ne_nil _ _) trivial,
    firstTurn_not_streams (List.cons_ne_nil _ _) ?_ ?_⟩
  · rw [hlen, Nat.mod_self]
  · rw [hlen]
    decide

end Grid0Relay.Uvl
