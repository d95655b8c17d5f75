import Grid0Relay.Logic.WriteQueue

/-!
# Writing a queue to lwIP

`uvl_imp_write_to_tcp` works the buffers of the queue off in order. A pass of it advances
one request by a chunk of its current buffer (`Advances`), and a whole call advances the
queue (`AdvancesAll`), while the chunks are appended to what lwIP has accepted (`Wrote`).
-/

namespace Grid0Relay.Uvl

open Lib Lib.Exec Lib.Fifo

/-! ## A position in a request -/

/-- The bytes of a request. -/
def WriteReq.data (req : WriteReq) : Bytes := req.sendBufs.flatten

/-- The bytes of a request that were written. -/
def WriteReq.progress (req : WriteReq) : Bytes := req.data.take req.totalSent.toNat

/-- The counters are a position in the data. The size of the data fits `total_len`. -/
structure WriteReq.Wf (req : WriteReq) : Prop where
  size : req.totalLen.toNat = req.data.length
  position : (req.sendBufs.take req.sentBufs).flatten.length + req.sent.toNat = req.totalSent.toNat
  bound : req.sent.toNat ≤ (req.sendBufs.getD req.sentBufs []).length
  pending : req.pending.toNat ≤ req.totalSent.toNat

theorem flatten_split {bufs : List Bytes} {i : Nat} {buf : Bytes} (h : bufs[i]? = some buf) :
    bufs.flatten = (bufs.take i).flatten ++ (buf ++ (bufs.drop (i + 1)).flatten) := by
  obtain ⟨hi, hbuf⟩ := List.getElem?_eq_some_iff.mp h
  conv_lhs => rw [← List.take_append_drop i bufs, List.drop_eq_getElem_cons hi, hbuf]
  rw [List.flatten_append, List.flatten_cons]

theorem flatten_take_succ {bufs : List Bytes} {i : Nat} {buf : Bytes} (h : bufs[i]? = some buf) :
    (bufs.take (i + 1)).flatten = (bufs.take i).flatten ++ buf := by
  rw [List.take_add_one, h, List.flatten_append]
  simp

section Position

variable {req : WriteReq} {buf : Bytes} {k : Nat}

theorem WriteReq.Wf.sent_le (wf : req.Wf) (hbuf : req.sendBufs[req.sentBufs]? = some buf) :
    req.sent.toNat ≤ buf.length := by
  have := wf.bound
  rwa [List.getD_eq_getElem?_getD, hbuf, Option.getD_some] at this

/-- What the rest of the current buffer leaves of the 32-bit counters. -/
theorem WriteReq.Wf.room (wf : req.Wf) (hbuf : req.sendBufs[req.sentBufs]? = some buf)
    (hk : req.sent.toNat + k ≤ buf.length) :
    req.totalSent.toNat + k ≤ req.data.length ∧ req.data.length < 2 ^ 32 := by
  have hlen := congrArg List.length (flatten_split hbuf)
  rw [List.length_append, List.length_append] at hlen
  have hposition := wf.position
  have hsize := wf.size
  have hlt := req.totalLen.toNat_lt
  rw [WriteReq.data] at hsize ⊢
  omega

/-- The next bytes of the current buffer are the next bytes of the request. -/
theorem WriteReq.Wf.chunk (wf : req.Wf) (hbuf : req.sendBufs[req.sentBufs]? = some buf)
    (hk : req.sent.toNat + k ≤ buf.length) :
    (req.data.drop req.totalSent.toNat).take k = (buf.drop req.sent.toNat).take k := by
  have hdrop : req.data.drop req.totalSent.toNat =
      buf.drop req.sent.toNat ++ (req.sendBufs.drop (req.sentBufs + 1)).flatten := by
    rw [WriteReq.data, flatten_split hbuf, ← wf.position, List.drop_length_add_append,
      List.drop_append_of_le_length (wf.sent_le hbuf)]
  rw [hdrop, List.take_append_of_le_length]
  rw [List.length_drop]
  omega

end Position

/-! ## Advancing -/

/-- `req'` is `req` after `chunk` was written. -/
structure Advances (req req' : WriteReq) (chunk : Bytes) : Prop where
  sendBufs : req'.sendBufs = req.sendBufs
  next : req'.next = req.next
  pending : req'.pending = req.pending + UInt32.ofNat chunk.length
  inBounds : req.sentBufs ≤ req.sendBufs.length → req'.sentBufs ≤ req.sendBufs.length
  wf : req.Wf → req'.Wf ∧ req'.progress = req.progress ++ chunk ∧
    req'.pending.toNat = req.pending.toNat + chunk.length

theorem Advances.refl (req : WriteReq) : Advances req req [] where
  sendBufs := rfl
  next := rfl
  pending := (UInt32.add_zero _).symm
  inBounds := id
  wf := fun wf => ⟨wf, (List.append_nil _).symm, rfl⟩

theorem Advances.trans {req req' req'' : WriteReq} {chunk chunk' : Bytes}
    (h : Advances req req' chunk) (h' : Advances req' req'' chunk') :
    Advances req req'' (chunk ++ chunk') where
  sendBufs := h'.sendBufs.trans h.sendBufs
  next := h'.next.trans h.next
  pending := by
    rw [h'.pending, h.pending, List.length_append, UInt32.ofNat_add, UInt32.add_assoc]
  inBounds := by
    intro hreq
    have := h'.inBounds (by rw [h.sendBufs]; exact h.inBounds hreq)
    rwa [h.sendBufs] at this
  wf := by
    intro wf
    obtain ⟨wf', hprogress, hpending⟩ := h.wf wf
    obtain ⟨wf'', hprogress', hpending'⟩ := h'.wf wf'
    refine ⟨wf'', ?_, ?_⟩
    · rw [hprogress', hprogress, List.append_assoc]
    · rw [hpending', hpending, List.length_append, Nat.add_assoc]

/-- A successful `tcp_write`. -/
theorem advances_write {req : WriteReq} {buf : Bytes} {k : Nat}
    (hbuf : req.sendBufs[req.sentBufs]? = some buf) (hk : k ≤ buf.length - req.sent.toNat) :
    Advances req
      { req with
        sent := req.sent + UInt32.ofNat k
        pending := req.pending + UInt32.ofNat k
        totalSent := req.totalSent + UInt32.ofNat k }
      ((buf.drop req.sent.toNat).take k) := by
  have hlen : ((buf.drop req.sent.toNat).take k).length = k := by
    rw [List.length_take, List.length_drop]
    omega
  refine ⟨rfl, rfl, by rw [hlen], id, ?_⟩
  intro wf
  have hle := wf.sent_le hbuf
  have hend : req.sent.toNat + k ≤ buf.length := by omega
  obtain ⟨hroom, hfits⟩ := wf.room hbuf hend
  have hposition := wf.position
  have hpending := wf.pending
  -- none of the three counters wraps
  have hadd : ∀ a : UInt32, a.toNat ≤ req.totalSent.toNat →
      (a + UInt32.ofNat k).toNat = a.toNat + k := by
    intro a ha
    rw [UInt32.toNat_add, UInt32.toNat_ofNat', Nat.mod_eq_of_lt (by omega : k < 2 ^ 32),
      Nat.mod_eq_of_lt (by omega)]
  have hsent := hadd req.sent (by omega)
  have htotal := hadd req.totalSent (Nat.le_refl _)
  have hpend := hadd req.pending hpending
  refine ⟨⟨wf.size, ?_, ?_, ?_⟩, ?_, ?_⟩
  · rw [hsent, htotal]
    change (req.sendBufs.take req.sentBufs).flatten.length + _ = _
    omega
  · rw [hsent, List.getD_eq_getElem?_getD, hbuf, Option.getD_some]
    exact hend
  · rw [hpend, htotal]
    omega
  · rw [WriteReq.progress, htotal, WriteReq.progress, List.take_add, ← wf.chunk hbuf hend]
    rfl
  · rw [hpend, hlen]

/-- Going to the next buffer. -/
theorem advances_next {req : WriteReq} {buf : Bytes}
    (hbuf : req.sendBufs[req.sentBufs]? = some buf) (hend : buf.length ≤ req.sent.toNat) :
    Advances req { req with sent := 0, sentBufs := req.sentBufs + 1 } [] := by
  obtain ⟨hi, -⟩ := List.getElem?_eq_some_iff.mp hbuf
  refine ⟨rfl, rfl, (UInt32.add_zero _).symm, fun _ => hi, ?_⟩
  intro wf
  refine ⟨⟨wf.size, ?_, Nat.zero_le _, wf.pending⟩, (List.append_nil _).symm, rfl⟩
  change (req.sendBufs.take (req.sentBufs + 1)).flatten.length + 0 = req.totalSent.toNat
  have hle := wf.sent_le hbuf
  rw [flatten_take_succ hbuf, List.length_append, ← wf.position]
  omega

/-! ## One buffer -/

/-- `tcp_write` succeeds or is out of memory. -/
structure Env.Accepts (env : Env) : Prop where
  tcpWrite : ∀ n, env.tcpWrite n = errOk ∨ env.tcpWrite n = errMem

/-- And `tcp_output` succeeds. -/
structure Env.Writes (env : Env) : Prop extends env.Accepts where
  tcpOutput : ∀ n, env.tcpOutput n = errOk

/-- `c'` is `c` after lwIP accepted `chunk`; the requests may differ. -/
structure Wrote (c c' : Client) (chunk : Bytes) : Prop where
  frame : c' = { c with
    reqs := c'.reqs, recvBytes := c'.recvBytes, sndBuf := c'.sndBuf, asked := c'.asked,
    written := c.written ++ chunk }
  room : c'.sndBuf.toNat + chunk.length = c.sndBuf.toNat

theorem Wrote.refl (c : Client) : Wrote c c [] :=
  ⟨by rw [List.append_nil], rfl⟩

theorem Wrote.trans {c c' c'' : Client} {chunk chunk' : Bytes} (h : Wrote c c' chunk)
    (h' : Wrote c' c'' chunk') : Wrote c c'' (chunk ++ chunk') := by
  refine ⟨?_, ?_⟩
  · rw [h'.frame, h.frame]
    simp only [List.append_assoc]
  · have := h.room
    have := h'.room
    rw [List.length_append]
    omega

section Walk

variable {env : Env} {c c' : Client} {front ahead : List WriteReq}
  {req req' : WriteReq} {buf chunk : Bytes}

theorem Wrote.at (h : Wrote c c' chunk) (at_ : At c front (req :: ahead))
    (hreqs : c'.reqs = front ++ req' :: ahead) (same : req'.next = req.next) :
    At c' front (req' :: ahead) := by
  have hmoved := at_.rewrite same
  refine ⟨hreqs, ?_, ?_⟩
  · rw [hreqs]
    exact hmoved.threaded
  · rw [h.frame]
    exact at_.live

theorem tcpWrite_of_ok {data : Bytes} (h : env.tcpWrite c.asked = errOk) :
    tcpWrite env data c = .ok errOk
      { c with
        asked := c.asked + 1
        sndBuf := c.sndBuf - UInt16.ofNat data.length
        written := c.written ++ data } := by
  have hask : ask env.tcpWrite c = .ok errOk { c with asked := c.asked + 1 } := by
    rw [ask, modifyGet_apply, h]
  rw [tcpWrite, bind_ok hask, if_pos rfl]
  rfl

theorem tcpWrite_of_mem {data : Bytes} (h : env.tcpWrite c.asked = errMem) :
    tcpWrite env data c = .ok errMem { c with asked := c.asked + 1 } := by
  have hask : ask env.tcpWrite c = .ok errMem { c with asked := c.asked + 1 } := by
    rw [ask, modifyGet_apply, h]
  rw [tcpWrite, bind_ok hask, if_neg (by decide)]
  rfl

/-- The client after a pass of the loop that wrote `k` bytes. -/
theorem wrote_pass {k : Nat} {req : WriteReq} (hk : k ≤ c.sndBuf.toNat)
    (hle : k ≤ buf.length - req.sent.toNat) (reqs : List WriteReq) (bytes : UInt32) :
    Wrote c
      { c with
        reqs := reqs
        recvBytes := bytes
        asked := c.asked + 1
        sndBuf := c.sndBuf - UInt16.ofNat ((buf.drop req.sent.toNat).take k).length
        written := c.written ++ (buf.drop req.sent.toNat).take k }
      ((buf.drop req.sent.toNat).take k) := by
  have hlen : ((buf.drop req.sent.toNat).take k).length = k := by
    rw [List.length_take, List.length_drop]
    omega
  refine ⟨rfl, ?_⟩
  rw [hlen]
  have hof : (UInt16.ofNat k).toNat = k :=
    UInt16.toNat_ofNat_of_lt' (Nat.lt_of_le_of_lt hk c.sndBuf.toNat_lt)
  change (c.sndBuf - UInt16.ofNat k).toNat + k = c.sndBuf.toNat
  rw [UInt16.toNat_sub_of_le _ _ (by rw [UInt16.le_iff_toNat_le, hof]; exact hk), hof]
  omega

theorem writeBufLoop_at {fuel : Nat} (cb : Callbacks) (lwip : env.Accepts) (at_ : At c front (req :: ahead))
    (hpcb : c.pcb = true) (hbuf : req.sendBufs[req.sentBufs]? = some buf)
    (hfuel : c.sndBuf.toNat < fuel) :
    ∃ ret req' chunk c', writeBufLoop env cb front.length buf fuel c = .ok ret c' ∧
      Wrote c c' chunk ∧ c'.reqs = front ++ req' :: ahead ∧ Advances req req' chunk ∧
      req'.sentBufs = req.sentBufs ∧
      (ret = some 0 ∨ ret = none ∧ (buf.length ≤ req'.sent.toNat ∨ c'.sndBuf = 0)) := by
  induction fuel generalizing c req with
  | zero => exact absurd hfuel (Nat.not_lt_zero _)
  | succ fuel ih =>
    rw [writeBufLoop, bind_ok at_.getReq, bind_ok (usePcb_apply hpcb), bind_ok (get_apply c)]
    generalize hk : min (buf.length - req.sent.toNat) c.sndBuf.toNat = k
    dsimp only
    by_cases hzero : k = 0
    · rw [if_pos hzero]
      refine ⟨none, req, [], c, rfl, Wrote.refl c, at_.reqs, Advances.refl req, rfl,
        .inr ⟨rfl, ?_⟩⟩
      by_cases hend : buf.length ≤ req.sent.toNat
      · exact .inl hend
      · have hfull : c.sndBuf.toNat = 0 := by omega
        exact .inr (UInt16.toNat_inj.mp hfull)
    · rw [if_neg hzero]
      rcases lwip.tcpWrite c.asked with hok | hmem
      · have hroom : k ≤ c.sndBuf.toNat := by omega
        have hrest : k ≤ buf.length - req.sent.toNat := by omega
        have hpass := advances_write hbuf hrest
        have hwrote := wrote_pass hroom hrest
          (front ++ { req with
            sent := req.sent + UInt32.ofNat k
            pending := req.pending + UInt32.ofNat k
            totalSent := req.totalSent + UInt32.ofNat k } :: ahead)
          (c.recvBytes + UInt32.ofNat k)
        rw [bind_ok (tcpWrite_of_ok hok), if_pos rfl, setReq, bind_ok (modify_apply _ _),
          set_append at_.reqs, bind_ok (modify_apply _ _), ite_run]
        by_cases hmore : (req.sent + UInt32.ofNat k).toNat < buf.length
        · rw [if_pos hmore]
          have hless := hwrote.room
          have hlen : ((buf.drop req.sent.toNat).take k).length = k := by
            rw [List.length_take, List.length_drop]
            omega
          obtain ⟨ret, req', chunk, c', hrun, hwrote', hreqs, hadv, hsame, hret⟩ :=
            ih (hwrote.at at_ rfl rfl) hpcb hbuf (by omega)
          exact ⟨ret, req', _, c', hrun, hwrote.trans hwrote', hreqs, hpass.trans hadv, hsame,
            hret⟩
        · rw [if_neg hmore]
          exact ⟨none, _, _, _, rfl, hwrote, rfl, hpass, rfl,
            .inr ⟨rfl, .inl (Nat.le_of_not_lt hmore)⟩⟩
      · rw [bind_ok (tcpWrite_of_mem hmem), if_neg (by decide), if_pos rfl]
        exact ⟨some 0, req, [], _, rfl, ⟨by rw [List.append_nil], rfl⟩, at_.reqs,
          Advances.refl req, rfl, .inl rfl⟩

/-- `uvl_imp_write_buf_to_tcp` stops, or goes to the next buffer. -/
theorem impWriteBufToTcp_at (cb : Callbacks) (lwip : env.Accepts) (at_ : At c front (req :: ahead))
    (hpcb : c.pcb = true) (hunsent : req.sentBufs < req.sendBufs.length) :
    ∃ ret req' chunk c', impWriteBufToTcp env cb front.length c = .ok ret c' ∧
      Wrote c c' chunk ∧ c'.reqs = front ++ req' :: ahead ∧ Advances req req' chunk ∧
      (ret = 0 ∨ ret = 1 ∧ req'.sentBufs = req.sentBufs + 1) := by
  obtain ⟨buf, hbuf⟩ : ∃ buf, req.sendBufs[req.sentBufs]? = some buf :=
    ⟨_, List.getElem?_eq_getElem hunsent⟩
  obtain ⟨ret, req', chunk, c', hrun, hwrote, hreqs, hadv, hsame, hret⟩ :=
    writeBufLoop_at cb lwip at_ hpcb hbuf (Nat.lt_succ_self _)
  simp only [impWriteBufToTcp, bind_ok at_.getReq, hbuf, bind_ok (get_apply c), bind_ok hrun]
  rcases hret with rfl | ⟨rfl, hend⟩
  · exact ⟨0, req', chunk, c', rfl, hwrote, hreqs, hadv, .inl rfl⟩
  · simp only [bind_ok (get_apply c'), ite_run]
    by_cases hfull : c'.sndBuf = 0
    · rw [if_pos hfull]
      exact ⟨0, req', chunk, c', rfl, hwrote, hreqs, hadv, .inl rfl⟩
    · rw [if_neg hfull]
      have hat' := hwrote.at at_ hreqs hadv.next
      have hbuf' : req'.sendBufs[req'.sentBufs]? = some buf := by
        rw [hadv.sendBufs, hsame, hbuf]
      have hnext := advances_next hbuf' (hend.resolve_right hfull)
      rw [bind_ok hat'.getReq, bind_ok hat'.setReq]
      refine ⟨1, _, chunk, _, rfl, ?_, rfl, ?_, .inr ⟨rfl, by rw [hsame]⟩⟩
      · exact ⟨by rw [hwrote.frame], hwrote.room⟩
      · simpa using hadv.trans hnext

end Walk

/-! ## The whole queue -/

/-- A request the write path has not reached. -/
def WriteReq.Fresh (req : WriteReq) : Prop := req.sentBufs = 0 ∧ req.sent = 0 ∧ req.totalSent = 0

/-- `sent_bufs` indexes the buffers, and there is one. -/
def WriteReq.InBounds (req : WriteReq) : Prop :=
  req.sentBufs ≤ req.sendBufs.length ∧ 0 < req.sendBufs.length

/-- A request is reached only when those before it have no unsent buffer. -/
def Ordered (queue : List WriteReq) : Prop :=
  queue.Pairwise fun req later => req.sentBufs < req.sendBufs.length → later.Fresh

/-- Every request of a queue advances, and their chunks make up `chunk` in order. -/
inductive AdvancesAll : List WriteReq → List WriteReq → Bytes → Prop
  | nil : AdvancesAll [] [] []
  | cons {req req' : WriteReq} {queue queue' : List WriteReq} {chunk chunk' : Bytes}
      (head : Advances req req' chunk) (tail : AdvancesAll queue queue' chunk') :
      AdvancesAll (req :: queue) (req' :: queue') (chunk ++ chunk')

theorem AdvancesAll.refl (queue : List WriteReq) : AdvancesAll queue queue [] := by
  induction queue with
  | nil => exact .nil
  | cons req queue ih => exact .cons (Advances.refl req) ih

theorem AdvancesAll.append {front queue queue' : List WriteReq} {chunk : Bytes}
    (h : AdvancesAll queue queue' chunk) : AdvancesAll (front ++ queue) (front ++ queue') chunk := by
  induction front with
  | nil => exact h
  | cons req front ih => exact .cons (Advances.refl req) ih

theorem AdvancesAll.map_next {queue queue' : List WriteReq} {chunk : Bytes}
    (h : AdvancesAll queue queue' chunk) :
    queue'.map WriteReq.next = queue.map WriteReq.next := by
  induction h with
  | nil => rfl
  | cons head tail ih => rw [List.map_cons, List.map_cons, head.next, ih]

theorem AdvancesAll.inBounds {queue queue' : List WriteReq} {chunk : Bytes}
    (h : AdvancesAll queue queue' chunk) (inBounds : ∀ req ∈ queue, req.InBounds) :
    ∀ req ∈ queue', req.InBounds := by
  induction h with
  | nil => exact inBounds
  | cons head tail ih =>
    rw [List.forall_mem_cons] at inBounds ⊢
    obtain ⟨⟨hle, hpos⟩, hrest⟩ := inBounds
    refine ⟨⟨?_, ?_⟩, ih hrest⟩
    · rw [head.sendBufs]
      exact head.inBounds hle
    · rw [head.sendBufs]
      exact hpos

/-- The buffers the write path still has to go through. -/
def remaining (queue : List WriteReq) : Nat :=
  (queue.map fun req => req.sendBufs.length - req.sentBufs).sum

theorem ordered_of_fresh {req : WriteReq} {queue : List WriteReq}
    (fresh : ∀ later ∈ queue, later.Fresh) : Ordered (req :: queue) := by
  refine List.pairwise_cons.mpr ⟨fun later hlater _ => fresh later hlater, ?_⟩
  exact List.Pairwise.imp_of_mem (R := fun _ _ => True) (fun _ hlater _ _ => fresh _ hlater)
    (List.pairwise_of_forall fun _ _ => trivial)

theorem writeLoop_at {env : Env} {c : Client} {front ahead : List WriteReq} {req : WriteReq}
    {fuel : Nat} (cb : Callbacks) (lwip : env.Accepts) (at_ : At c front (req :: ahead))
    (hpcb : c.pcb = true) (hunsent : req.sentBufs < req.sendBufs.length)
    (fresh : ∀ later ∈ ahead, later.Fresh ∧ later.InBounds)
    (hfuel : remaining (req :: ahead) ≤ fuel) :
    ∃ queue' chunk c', writeLoop env cb fuel (some front.length) c = .ok true c' ∧
      Wrote c c' chunk ∧ c'.reqs = front ++ queue' ∧ AdvancesAll (req :: ahead) queue' chunk ∧
      Ordered queue' := by
  have hcons : ∀ r q, remaining (r :: q) = (r.sendBufs.length - r.sentBufs) + remaining q :=
    fun _ _ => rfl
  induction fuel generalizing c front req ahead with
  | zero =>
    rw [hcons] at hfuel
    omega
  | succ fuel ih =>
    obtain ⟨ret, req', chunk, c', hrun, hwrote, hreqs, hadv, hret⟩ :=
      impWriteBufToTcp_at cb lwip at_ hpcb hunsent
    rw [writeLoop, bind_ok hrun]
    rcases hret with rfl | ⟨rfl, hsent⟩
    · -- the send buffer is full, or lwIP is out of memory
      refine ⟨req' :: ahead, chunk ++ [], c', rfl, ?_, hreqs, .cons hadv (.refl ahead),
        ordered_of_fresh fun later hlater => (fresh later hlater).1⟩
      rwa [List.append_nil]
    · have hat' := hwrote.at at_ hreqs hadv.next
      have hpcb' : c'.pcb = true := by rw [hwrote.frame]; exact hpcb
      rw [hcons] at hfuel
      rw [if_neg (by decide), if_neg (by decide), bind_ok hat'.getReq, ite_run]
      by_cases hdone : req'.sentBufs = req'.sendBufs.length
      · rw [if_pos hdone]
        cases ahead with
        | nil =>
          have hnext : req'.next = none := by
            have hend := hat'.advance.link_nil
            rwa [List.length_append, List.length_singleton, ← hat'.next] at hend
          refine ⟨[req'], chunk ++ [], c', ?_, ?_, hreqs, .cons hadv .nil,
            List.pairwise_singleton _ _⟩
          · rw [hnext, writeLoop]
            rfl
          · rwa [List.append_nil]
        | cons later ahead =>
          have hnext : req'.next = some (front ++ [req']).length := by
            rw [hat'.next, ← hat'.advance.link_cons, List.length_append]
            rfl
          obtain ⟨⟨hzero, -⟩, hpos⟩ := fresh later List.mem_cons_self
          obtain ⟨queue', chunk', c'', hrun', hwrote', hreqs', hadv', hordered⟩ :=
            ih hat'.advance hpcb' (by rw [hzero]; exact hpos.2)
              (fun r hr => fresh r (List.mem_cons_of_mem _ hr)) (by omega)
          refine ⟨req' :: queue', chunk ++ chunk', c'', ?_, hwrote.trans hwrote', ?_,
            .cons hadv hadv', ?_⟩
          · rw [hnext]
            exact hrun'
          · rw [hreqs', List.append_assoc]
            rfl
          · refine List.pairwise_cons.mpr ⟨fun _ _ hlt => ?_, hordered⟩
            rw [hdone] at hlt
            exact absurd hlt (Nat.lt_irrefl _)
      · rw [if_neg hdone]
        have hmore : req'.sentBufs < req'.sendBufs.length := by
          have hle := hadv.inBounds (Nat.le_of_lt hunsent)
          rw [hadv.sendBufs] at hdone ⊢
          omega
        have hless : remaining (req' :: ahead) ≤ fuel := by
          rw [hcons, hadv.sendBufs, hsent]
          omega
        obtain ⟨queue', chunk', c'', hrun', hwrote', hreqs', hadv', hordered⟩ :=
          ih hat' hpcb' hmore fresh hless
        cases hadv' with
        | cons head tail =>
          refine ⟨_, _, c'', hrun', hwrote.trans hwrote', hreqs', ?_, hordered⟩
          rw [← List.append_assoc]
          exact .cons (hadv.trans head) tail

/-! ## `uvl_imp_write_to_tcp` -/

theorem firstUnsent_at {c : Client} {front ahead : List WriteReq} {fuel : Nat}
    (at_ : At c front ahead) (hfuel : ahead.length ≤ fuel) :
    ∃ done rest, ahead = done ++ rest ∧ (∀ req ∈ done, ¬ req.sentBufs < req.sendBufs.length) ∧
      (∀ req ∈ rest.head?, req.sentBufs < req.sendBufs.length) ∧
      firstUnsent fuel (link c.reqs.length front.length) c =
        .ok (link c.reqs.length (front ++ done).length) c := by
  induction ahead generalizing front fuel with
  | nil =>
    refine ⟨[], [], rfl, by simp, by simp, ?_⟩
    rw [List.append_nil, at_.link_nil, firstUnsent]
    rfl
  | cons req ahead ih =>
    cases fuel with
    | zero => cases hfuel
    | succ fuel =>
      rw [at_.link_cons, firstUnsent, bind_ok at_.getReq, ite_run]
      by_cases hunsent : req.sentBufs < req.sendBufs.length
      · refine ⟨[], req :: ahead, rfl, by simp, by simpa using hunsent, ?_⟩
        rw [if_pos hunsent, List.append_nil, at_.link_cons]
        rfl
      · obtain ⟨done, rest, hsplit, hdone, hhead, hrun⟩ :=
          ih at_.advance (Nat.le_of_succ_le_succ hfuel)
        refine ⟨req :: done, rest, by rw [hsplit]; rfl, ?_, hhead, ?_⟩
        · rw [List.forall_mem_cons]
          exact ⟨hunsent, hdone⟩
        · rw [if_neg hunsent, at_.next]
          rw [List.length_append, List.append_assoc] at hrun
          exact hrun

theorem remaining_le (queue : List WriteReq) :
    remaining queue ≤ (queue.map (·.sendBufs.length)).sum := by
  induction queue with
  | nil => exact Nat.le_refl _
  | cons req queue ih =>
    rw [remaining] at ih ⊢
    simp only [List.map_cons, List.sum_cons]
    omega

theorem Queued.wrote {c c' : Client} {past queue queue' : List WriteReq} {chunk : Bytes}
    (h : Queued c past queue) (hwrote : Wrote c c' chunk) (hreqs : c'.reqs = past ++ queue')
    (hadv : AdvancesAll queue queue' chunk) : Queued c' past queue' :=
  h.congr hreqs hadv.map_next (by rw [hwrote.frame]) (by rw [hwrote.frame])
    (by rw [hwrote.frame])

/-- A call of `uvl_imp_write_to_tcp`. The connection is closed behind it where `tcp_output`
fails. -/
theorem impWriteToTcp_queued {env : Env} {c : Client} {past queue : List WriteReq}
    (cb : Callbacks) (lwip : env.Accepts)
    (output : (∀ n, env.tcpOutput n = errOk) ∨ ∀ reading c, cb.readCb reading c = .ok () c)
    (h : Queued c past queue) (hsome : queue ≠ []) (opened : c.closed = false)
    (hpcb : c.pcb = true) (ordered : Ordered queue) (inBounds : ∀ req ∈ queue, req.InBounds) :
    ∃ queue' chunk c' c'', impWriteToTcp env cb c = .ok () c'' ∧
      (c'' = c' ∨ c'' = c'.freed ∧ ¬ ∀ n, env.tcpOutput n = errOk) ∧ Wrote c c' chunk ∧
      Queued c' past queue' ∧ AdvancesAll queue queue' chunk ∧ Ordered queue' := by
  have hpos : past.length < c.reqs.length := by
    have := List.length_pos_iff.mpr hsome
    rw [h.reqs, List.length_append]
    omega
  have hguard : ¬ (c.curWrite.isNone = true ∨ (!c.pcb) = true) := by
    rw [h.cur, link_of_lt hpos, hpcb]
    simp
  have hlen : queue.length ≤ c.reqs.length := by
    rw [h.reqs, List.length_append]
    omega
  obtain ⟨done, rest, hsplit, hdone, hhead, hfirst⟩ := firstUnsent_at h.at hlen
  -- whatever the loop leaves, `tcp_output` takes one more answer or closes the connection
  have hclose : ∀ {queue' : List WriteReq} {chunk : Bytes} {c₁ : Client},
      writeLoop env cb ((c.reqs.map (·.sendBufs.length)).sum + 1)
        (link c.reqs.length (past ++ done).length) c = .ok true c₁ →
      Wrote c c₁ chunk → c₁.reqs = past ++ queue' → AdvancesAll queue queue' chunk →
      Ordered queue' → ∃ queue' chunk c' c'', impWriteToTcp env cb c = .ok () c'' ∧
        (c'' = c' ∨ c'' = c'.freed ∧ ¬ ∀ n, env.tcpOutput n = errOk) ∧ Wrote c c' chunk ∧
        Queued c' past queue' ∧ AdvancesAll queue queue' chunk ∧ Ordered queue' := by
    intro queue' chunk c₁ hloop hwrote hreqs hadv hordered
    have hpcb' : c₁.pcb = true := by rw [hwrote.frame]; exact hpcb
    have hopen' : c₁.closed = false := by rw [hwrote.frame]; exact opened
    have hwrote' (n : Nat) : Wrote c { c₁ with asked := n } chunk :=
      ⟨by rw [hwrote.frame], hwrote.room⟩
    rw [h.cur] at hguard
    rw [impWriteToTcp, bind_ok (get_apply c), h.cur, if_neg hguard, bind_ok hfirst,
      bind_ok hloop, if_pos rfl, bind_ok (usePcb_apply hpcb'), ask,
      bind_ok (modifyGet_apply _ c₁), ite_run]
    split
    · exact ⟨queue', chunk, _, _, rfl, .inl rfl, hwrote' _, h.wrote (hwrote' _) hreqs hadv, hadv,
        hordered⟩
    · rename_i hfail
      have hnot : ¬ ∀ n, env.tcpOutput n = errOk := fun hall => hfail (hall _)
      obtain ⟨ret, hrun⟩ := @clientCloseFunc_silent cb { c₁ with asked := c₁.asked + 1 }
        (output.resolve_left hnot) env hopen' hpcb'
      rw [bind_ok hrun]
      exact ⟨queue', chunk, _, _, rfl, .inr ⟨rfl, hnot⟩, hwrote' (c₁.asked + 1 + 1),
        h.wrote (hwrote' _) hreqs hadv, hadv, hordered⟩
  cases rest with
  | nil =>
    rw [List.append_nil] at hsplit
    subst hsplit
    have hend : link c.reqs.length (past ++ queue).length = none := by rw [← h.reqs, link_self]
    refine hclose ?_ (Wrote.refl c) h.reqs (.refl queue) ordered
    rw [hend, writeLoop]
    rfl
  | cons req ahead =>
    subst hsplit
    have hat := h.at.skip
    obtain ⟨hbefore, hafter, hcross⟩ := List.pairwise_append.mp ordered
    have hunsent : req.sentBufs < req.sendBufs.length := hhead req rfl
    have hfresh : ∀ later ∈ ahead, later.Fresh ∧ later.InBounds := by
      intro later hlater
      refine ⟨(List.pairwise_cons.mp hafter).1 later hlater hunsent, inBounds later ?_⟩
      exact List.mem_append_right _ (List.mem_cons_of_mem _ hlater)
    have hfuel : remaining (req :: ahead) ≤ (c.reqs.map (·.sendBufs.length)).sum + 1 := by
      have := remaining_le (req :: ahead)
      rw [h.reqs, List.map_append, List.map_append, List.sum_append, List.sum_append]
      omega
    obtain ⟨queue', chunk, c', hrun, hwrote, hreqs, hadv, hordered⟩ :=
      writeLoop_at cb lwip hat hpcb hunsent hfresh hfuel
    rw [← hat.link_cons] at hrun
    have hordered' : Ordered (done ++ queue') := by
      refine List.pairwise_append.mpr ⟨hbefore, hordered, ?_⟩
      intro r hr later _ hlt
      exact absurd hlt (hdone r hr)
    exact hclose hrun hwrote (by rw [hreqs, List.append_assoc]) hadv.append hordered'

/-! ## Requests that keep their place -/

/-- Only the pointer changes, or less is pending. -/
structure Kept (req req' : WriteReq) : Prop where
  sendBufs : req'.sendBufs = req.sendBufs
  sentBufs : req'.sentBufs = req.sentBufs
  sent : req'.sent = req.sent
  totalSent : req'.totalSent = req.totalSent
  totalLen : req'.totalLen = req.totalLen
  pending : req'.pending.toNat ≤ req.pending.toNat

section Kept

variable {queue queue' : List WriteReq}

theorem kept_of_body (h : queue'.map WriteReq.body = queue.map WriteReq.body) :
    List.Forall₂ Kept queue queue' := by
  induction queue generalizing queue' with
  | nil =>
    rw [List.map_nil, List.map_eq_nil_iff] at h
    rw [h]
    exact .nil
  | cons req queue ih =>
    cases queue' with
    | nil => cases h
    | cons req' queue' =>
      obtain ⟨hreq, hrest⟩ := List.cons.inj h
      simp only [WriteReq.body, WriteReq.mk.injEq] at hreq
      obtain ⟨h1, h2, h3, h4, h5, h6, -⟩ := hreq
      exact .cons ⟨h1, h2, h3, h5, h6, by rw [h4]⟩ (ih hrest)

theorem kept_debit (len : Nat) (queue : List WriteReq) : List.Forall₂ Kept queue (debit len queue) := by
  induction queue generalizing len with
  | nil => exact .nil
  | cons req queue ih =>
    refine .cons ⟨rfl, rfl, rfl, rfl, rfl, ?_⟩ (ih _)
    rw [toNat_debited]
    exact Nat.sub_le _ _

theorem map_next_debit (len : Nat) (queue : List WriteReq) :
    (debit len queue).map WriteReq.next = queue.map WriteReq.next := by
  induction queue generalizing len with
  | nil => rfl
  | cons req queue ih => exact congrArg (req.next :: ·) (ih _)

theorem forall_kept {P : WriteReq → Prop} (kept : List.Forall₂ Kept queue queue')
    (step : ∀ {req req' : WriteReq}, Kept req req' → P req → P req') (h : ∀ req ∈ queue, P req) :
    ∀ req ∈ queue', P req := by
  induction kept with
  | nil => exact h
  | cons hreq _ ih =>
    rw [List.forall_mem_cons] at h ⊢
    exact ⟨step hreq h.1, ih h.2⟩

theorem Kept.fresh {req req' : WriteReq} (kept : Kept req req') (h : req.Fresh) : req'.Fresh := by
  rw [WriteReq.Fresh, kept.sentBufs, kept.sent, kept.totalSent]
  exact h

theorem Kept.inBounds {req req' : WriteReq} (kept : Kept req req') (h : req.InBounds) :
    req'.InBounds := by
  rw [WriteReq.InBounds, kept.sentBufs, kept.sendBufs]
  exact h

theorem Kept.wf {req req' : WriteReq} (kept : Kept req req') (wf : req.Wf) : req'.Wf := by
  refine ⟨?_, ?_, ?_, ?_⟩
  · rw [kept.totalLen, WriteReq.data, kept.sendBufs]
    exact wf.size
  · rw [kept.sendBufs, kept.sentBufs, kept.sent, kept.totalSent]
    exact wf.position
  · rw [kept.sent, kept.sendBufs, kept.sentBufs]
    exact wf.bound
  · rw [kept.totalSent]
    exact Nat.le_trans kept.pending wf.pending

theorem Kept.progress {req req' : WriteReq} (kept : Kept req req') :
    req'.progress = req.progress := by
  rw [WriteReq.progress, WriteReq.data, kept.sendBufs, kept.totalSent]
  rfl

theorem Ordered.kept (kept : List.Forall₂ Kept queue queue') (ordered : Ordered queue) :
    Ordered queue' := by
  induction kept with
  | nil => exact ordered
  | cons hreq hrest ih =>
    obtain ⟨hhead, htail⟩ := List.pairwise_cons.mp ordered
    refine List.pairwise_cons.mpr ⟨?_, ih htail⟩
    intro later hlater hunsent
    rw [hreq.sentBufs, hreq.sendBufs] at hunsent
    exact forall_kept hrest Kept.fresh (fun r hr => hhead r hr hunsent) later hlater

theorem flatMap_kept {β : Type} (f : WriteReq → List β) (kept : List.Forall₂ Kept queue queue')
    (same : ∀ {req req' : WriteReq}, Kept req req' → f req' = f req) :
    queue'.flatMap f = queue.flatMap f := by
  induction kept with
  | nil => rfl
  | cons hreq _ ih => rw [List.flatMap_cons, List.flatMap_cons, same hreq, ih]

end Kept

/-- `uvl_write` leaves the queue in order. -/
theorem write_ordered {c : Client} {past queue : List WriteReq} {bufs : List Bytes} (env : Env)
    (h : Queued c past queue) (ordered : Ordered queue) (inBounds : ∀ req ∈ queue, req.InBounds)
    (hbufs : bufs ≠ []) :
    ∃ queue' c', write env bufs c = .ok (env.asyncSend c.asked) c' ∧
      Queued c' past (queue' ++ [WriteReq.init bufs]) ∧ List.Forall₂ Kept queue queue' ∧
      pendingSum (queue' ++ [WriteReq.init bufs]) = pendingSum queue ∧
      Ordered (queue' ++ [WriteReq.init bufs]) ∧
      (∀ req ∈ queue' ++ [WriteReq.init bufs], req.InBounds) ∧
      c' = { c with
        reqs := c'.reqs, curWrite := c'.curWrite, tailWrite := c'.tailWrite,
        asked := c.asked + 1 } := by
  obtain ⟨queue', c', hrun, hqueued, hbody, hframe⟩ := write_queued env bufs h
  have hkept := kept_of_body hbody
  refine ⟨queue', c', hrun, hqueued, hkept, ?_, ?_, ?_, hframe⟩
  · have hsum := congrArg pendingSum hbody
    rw [pendingSum, pendingSum, List.map_map, List.map_map] at hsum
    rw [pendingSum_append]
    exact hsum
  · refine List.pairwise_append.mpr ⟨ordered.kept hkept, List.pairwise_singleton _ _, ?_⟩
    intro req _ later hlater _
    rw [List.mem_singleton.mp hlater]
    exact ⟨rfl, rfl, rfl⟩
  · rw [List.forall_mem_append]
    refine ⟨forall_kept hkept Kept.inBounds inBounds, ?_⟩
    intro req hreq
    rw [List.mem_singleton.mp hreq]
    exact ⟨Nat.zero_le _, List.length_pos_iff.mpr hbufs⟩

/-- `uvl_client_sent_func` on a queue that has this much pending. -/
theorem clientSentFunc_queued {c : Client} {past queue : List WriteReq} {len : UInt16} (env : Env)
    (h : Queued c past queue) (opened : c.closed = false) (hlen : len ≠ 0)
    (enough : len.toNat ≤ pendingSum queue) :
    ∃ c', clientSentFunc env len c = .ok errOk c' ∧ Queued c' past (debit len.toNat queue) ∧
      c' = { c with reqs := c'.reqs, sentBytes := c'.sentBytes, asked := c'.asked } := by
  have hguard : ¬ (c.closed = true ∨ len = 0) := by simp [opened, hlen]
  have hfuel : queue.length ≤ c.reqs.length := by
    rw [h.reqs, List.length_append]
    omega
  have hat : At { c with sentBytes := c.sentBytes + UInt32.ofNat len.toNat } past queue :=
    ⟨h.reqs, h.threaded, h.at.live⟩
  have hloop := sentLoop_at hat hfuel enough
  dsimp only at hloop
  rw [← h.cur] at hloop
  refine ⟨{ c with
    reqs := past ++ debit len.toNat queue
    sentBytes := c.sentBytes + UInt32.ofNat len.toNat
    asked := c.asked + 1 }, ?_, h.congr rfl (map_next_debit len.toNat queue) rfl rfl rfl, rfl⟩
  rw [clientSentFunc, bind_ok (get_apply c), if_neg hguard, bind_ok (modify_apply _ c),
    bind_ok hloop]
  rfl

/-! ## The deferred callback -/

/-- The client after its first requests completed, with the tail pointer put right. -/
def Client.settled (c : Client) (past done rest : List WriteReq) : Client :=
  { c.popped past done with tailWrite := if rest = [] then none else c.tailWrite }

theorem Queued.settled {c : Client} {past done rest : List WriteReq}
    (h : Queued c past (done ++ rest)) : Queued (c.settled past done rest) (past ++ done) rest := by
  refine ⟨h.at.skip.reqs, rfl, ?_, h.at.skip.threaded, ?_⟩
  · change (if rest = [] then none else c.tailWrite) = _
    by_cases hrest : rest = []
    · rw [if_pos hrest, if_pos hrest]
    · rw [if_neg hrest, if_neg hrest, h.tail, if_neg]
      · rfl
      · simp [hrest]
  · change (c.called ++ calls .ok past.length done).map Prod.fst = _
    rw [List.map_append, h.called, map_fst_calls, List.length_append, List.range_eq_range',
      List.range_eq_range']
    have hrange := @List.range'_append_1 0 past.length done.length
    rwa [Nat.zero_add] at hrange

theorem popped_isNone {c : Client} {past done rest : List WriteReq}
    (h : Queued c past (done ++ rest)) :
    (c.popped past done).curWrite.isNone = decide (rest = []) := by
  change (link c.reqs.length (past ++ done).length).isNone = _
  rw [h.reqs, ← List.append_assoc]
  cases rest with
  | nil => simp
  | cons req rest => rw [link_of_lt (by simp)]; simp

/-- The first half of `uvl_async_tcp_write_cb`, when no callback acts on the client: the
completed requests leave the queue. -/
theorem complete_queued {c : Client} {past queue : List WriteReq} {cb : Callbacks}
    (h : Queued c past queue)
    (silent : ∀ id c, c.curWrite ≠ none → cb.writeCb id .ok c = .ok () c)
    (last : (∀ req ∈ queue, req.Complete) → queue ≠ [] →
      cb.writeCb (c.reqs.length - 1) .ok (c.popped past queue) = .ok () (c.popped past queue)) :
    ∃ done rest, queue = done ++ rest ∧
      (∀ req ∈ done, req.Complete) ∧ (∀ req ∈ rest.head?, ¬ req.Complete) ∧
      completeLoop cb c.reqs.length c.curWrite c = .ok () (c.popped past done) ∧
      clearTail (c.popped past done) = .ok () (c.settled past done rest) := by
  have hlen : queue.length ≤ c.reqs.length := by
    rw [h.reqs, List.length_append]
    omega
  obtain ⟨done, rest, hsplit, hdone, hhead, hrun⟩ := completeLoop_at silent h.at h.cur hlen
  subst hsplit
  refine ⟨done, rest, rfl, hdone, hhead, ?_, ?_⟩
  · -- the last callback of the queue returns like the others
    rw [h.cur, hrun]
    split
    · rename_i hall
      obtain ⟨hsome, rfl⟩ := hall
      rw [List.append_nil] at last
      exact last hdone hsome
    · rfl
  · rw [clearTail, bind_ok (get_apply _), ite_run, popped_isNone h]
    by_cases hrest : rest = []
    · rw [if_pos (by simpa using hrest), Client.settled, if_pos hrest]
      rfl
    · rw [if_neg (by simpa using hrest), Client.settled, if_neg hrest]
      rfl

/-- `uvl_async_tcp_write_cb` on an open connection: what is not complete advances. -/
theorem asyncTcpWriteCb_open {env : Env} {c : Client} {past queue : List WriteReq} {cb : Callbacks}
    (lwip : env.Accepts)
    (output : (∀ n, env.tcpOutput n = errOk) ∨ ∀ reading c, cb.readCb reading c = .ok () c)
    (h : Queued c past queue)
    (silent : ∀ id c, c.curWrite ≠ none → cb.writeCb id .ok c = .ok () c)
    (last : (∀ req ∈ queue, req.Complete) → queue ≠ [] →
      cb.writeCb (c.reqs.length - 1) .ok (c.popped past queue) = .ok () (c.popped past queue))
    (opened : c.closed = false) (hpcb : c.pcb = true) (ordered : Ordered queue)
    (inBounds : ∀ req ∈ queue, req.InBounds) :
    ∃ done rest rest' chunk c' c'', queue = done ++ rest ∧
      (∀ req ∈ done, req.Complete) ∧ (∀ req ∈ rest.head?, ¬ req.Complete) ∧
      asyncTcpWriteCb env cb c = .ok () c'' ∧
      (c'' = c' ∨ c'' = c'.freed ∧ ¬ ∀ n, env.tcpOutput n = errOk) ∧
      Wrote (c.settled past done rest) c' chunk ∧
      Queued c' (past ++ done) rest' ∧ AdvancesAll rest rest' chunk ∧ Ordered rest' := by
  obtain ⟨done, rest, rfl, hdone, hhead, hloop, htail⟩ := complete_queued h silent last
  have hqueued := h.settled
  have hopen : ¬ (c.settled past done rest).closed = true := by
    change ¬ c.closed = true
    rw [opened]
    exact Bool.false_ne_true
  have hnone : (c.settled past done rest).curWrite.isNone = decide (rest = []) := popped_isNone h
  rw [asyncTcpWriteCb, bind_ok (get_apply c), bind_ok hloop, bind_ok htail, bind_ok (get_apply _),
    if_neg hopen]
  by_cases hrest : rest = []
  · have hidle : ¬ (c.settled past done rest).curWrite.isSome = true := by
      rw [← Option.not_isNone, hnone]
      simpa using hrest
    rw [if_neg hidle]
    exact ⟨done, rest, rest, [], _, _, rfl, hdone, hhead, rfl, .inl rfl, Wrote.refl _, hqueued,
      .refl rest, (List.pairwise_append.mp ordered).2.1⟩
  · have hbusy : (c.settled past done rest).curWrite.isSome = true := by
      rw [← Option.not_isNone, hnone]
      simpa using hrest
    rw [if_pos hbusy]
    obtain ⟨rest', chunk, c', c'', hwritten⟩ :=
      impWriteToTcp_queued cb lwip output hqueued hrest opened hpcb
        (List.pairwise_append.mp ordered).2.1
        fun req hreq => inBounds req (List.mem_append_right _ hreq)
    exact ⟨done, rest, rest', chunk, c', c'', rfl, hdone, hhead, hwritten⟩

end Grid0Relay.Uvl
