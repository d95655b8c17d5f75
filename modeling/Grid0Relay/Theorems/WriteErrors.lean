import Grid0Relay.Theorems.WriteCompletion

/-!
# A write that lwIP refuses

`uvl_imp_write_buf_to_tcp` closes the client when `tcp_write` fails with anything but
`ERR_MEM`, and hands the result of the close, 0 or -13, to a caller that takes 0 for "stop",
-1 for "closed" and everything else for "go on". Neither of the two is -1: the caller always
goes on with the closed client.
-/

namespace Grid0Relay.Uvl

open Lib Lib.Exec

/-! ## The calls of `tcp_write` -/

/-- The client after a round of the loop in `uvl_imp_write_buf_to_tcp` whose `tcp_write`
took `k` bytes. -/
def Client.wrote (c : Client) (id : Nat) (req : WriteReq) (data : Bytes) (k : Nat) : Client :=
  { c with
    asked := c.asked + 1
    sndBuf := c.sndBuf - UInt16.ofNat data.length
    written := c.written ++ data
    reqs := c.reqs.set id
      { req with
        sent := req.sent + UInt32.ofNat k
        pending := req.pending + UInt32.ofNat k
        totalSent := req.totalSent + UInt32.ofNat k }
    recvBytes := c.recvBytes + UInt32.ofNat k }

/-- `to_write`. -/
def toWrite (c : Client) (req : WriteReq) (buf : Bytes) : Nat :=
  min (buf.length - req.sent.toNat) c.sndBuf.toNat

/-- Started in the first state, the loop over one buffer calls `tcp_write` in the second. -/
inductive BufWrites (env : Env) (id : Nat) (buf : Bytes) : Client → Client → Prop
  | first {c : Client} {req : WriteReq} (current : getReq id c = .ok req c) (live : c.pcb = true)
      (some_ : toWrite c req buf ≠ 0) : BufWrites env id buf c c
  | again {c c₀ : Client} {req : WriteReq} (current : getReq id c = .ok req c)
      (live : c.pcb = true) (some_ : toWrite c req buf ≠ 0)
      (accepted : env.tcpWrite c.asked = errOk)
      (more : (req.sent + UInt32.ofNat (toWrite c req buf)).toNat < buf.length)
      (later : BufWrites env id buf (c.wrote id req
        ((buf.drop req.sent.toNat).take (toWrite c req buf)) (toWrite c req buf)) c₀) :
      BufWrites env id buf c c₀

/-- Started at a request in the first state, the loop over the queue calls `tcp_write` in the
second. -/
inductive LoopWrites (env : Env) (cb : Callbacks) : Option Nat → Client → Client → Prop
  | here {id : Nat} {c c₀ : Client} {req : WriteReq} {buf : Bytes}
      (current : getReq id c = .ok req c) (buffer : req.sendBufs[req.sentBufs]? = some buf)
      (writes : BufWrites env id buf c c₀) : LoopWrites env cb (some id) c c₀
  | next {id : Nat} {c c₁ c₀ : Client} {req : WriteReq} {ret : Int}
      (before : impWriteBufToTcp env cb id c = .ok ret c₁) (goes : ret ≠ 0 ∧ ret ≠ -1)
      (current : getReq id c₁ = .ok req c₁)
      (later : LoopWrites env cb
        (if req.sentBufs = req.sendBufs.length then req.next else some id) c₁ c₀) :
      LoopWrites env cb (some id) c c₀

/-- `uvl_imp_write_to_tcp`, called in the first state, calls `tcp_write` in the second. -/
def Writes (env : Env) (cb : Callbacks) (c c₀ : Client) : Prop :=
  ∃ first, firstUnsent c.reqs.length c.curWrite c = .ok first c ∧ LoopWrites env cb first c c₀

/-- A `tcp_write` fails with an error other than `ERR_MEM`. -/
def Refused (env : Env) (c₀ : Client) : Prop :=
  env.tcpWrite c₀.asked ≠ errOk ∧ env.tcpWrite c₀.asked ≠ errMem

/-- After a refused write the call returns in the state the close left, with a null `pcb`. -/
def StopsWhenRefused (env : Env) (cb : Callbacks) (c : Client) : Prop :=
  ∀ c₀, Writes env cb c c₀ → Refused env c₀ →
    ∃ ret c₁, clientCloseFunc env cb { c₀ with asked := c₀.asked + 1 } = .ok ret c₁ ∧
      impWriteToTcp env cb c = .ok () c₁ ∧ c₁.pcb = false

/-- The application has no way to give a client a new `pcb`. -/
def Callbacks.LeavesPcb (cb : Callbacks) : Prop :=
  ∀ reading c c', cb.readCb reading c = .ok () c' → c.pcb = false → c'.pcb = false

/-! ## What a close leaves -/

variable {env : Env} {cb : Callbacks} {c c₀ : Client}

theorem clientFreed_pcb (hcb : cb.LeavesPcb) {c' : Client} (h : clientFreed cb c = .ok () c') :
    c'.pcb = false := by
  rw [clientFreed, bind_ok (modify_apply _ c), bind_ok (get_apply _), ite_run] at h
  split_ifs at h with hread
  · obtain ⟨_, c₁, hcall, hrest⟩ := bind_eq_ok h
    rw [callReadCb, bind_ok (modify_apply _ _)] at hcall
    have hpcb := hcb _ _ c₁ hcall rfl
    obtain ⟨-, rfl⟩ := EStateM.Result.ok.inj hrest
    exact hpcb
  · obtain ⟨-, rfl⟩ := EStateM.Result.ok.inj h
    rfl

/-- The close returns one of two codes, and neither is the -1 its caller looks for. -/
theorem clientCloseFunc_pcb (hcb : cb.LeavesPcb) {ret : Int} {c' : Client}
    (h : clientCloseFunc env cb c = .ok ret c') :
    c'.pcb = false ∧ (ret = errOk ∨ ret = errAbrt) := by
  rw [clientCloseFunc, bind_ok (get_apply c), ite_run] at h
  split_ifs at h with hclosed
  · cases h
  · obtain ⟨_, c₁, -, h⟩ := bind_eq_ok h
    obtain ⟨err, c₂, -, h⟩ := bind_eq_ok h
    obtain ⟨_, c₃, hfreed, h⟩ := bind_eq_ok h
    obtain ⟨rfl, rfl⟩ := EStateM.Result.ok.inj h
    refine ⟨clientFreed_pcb hcb hfreed, ?_⟩
    split_ifs
    · exact .inl rfl
    · exact .inr rfl

theorem tcpWrite_refused {data : Bytes} (h : Refused env c) :
    tcpWrite env data c = .ok (env.tcpWrite c.asked) { c with asked := c.asked + 1 } := by
  rw [tcpWrite, ask, bind_ok (modifyGet_apply _ c), if_neg h.1]
  rfl

theorem usePcb_null (null : c.pcb = false) : usePcb c = .error .nullPointer c := by
  rw [usePcb, bind_ok (get_apply c), if_neg (by simp [null])]
  rfl

theorem getReq_state {id : Nat} {req : WriteReq} {c' : Client} (h : getReq id c = .ok req c') :
    c' = c := by
  rw [getReq, bind_ok (get_apply c), ite_run] at h
  split_ifs at h
  · cases h
  · cases hget : c.reqs[id]? with
    | none =>
      simp only [hget] at h
      cases h
    | some found =>
      simp only [hget] at h
      exact (EStateM.Result.ok.inj h).2.symm

section Round

variable {id fuel : Nat} {buf : Bytes} {req : WriteReq} (current : getReq id c = .ok req c)
  (live : c.pcb = true) (some_ : toWrite c req buf ≠ 0)
include current live some_

theorem writeBufLoop_refuses (refused : Refused env c) :
    writeBufLoop env cb id buf (fuel + 1) c =
      (clientCloseFunc env cb >>= fun ret => pure (some ret)) { c with asked := c.asked + 1 } := by
  rw [writeBufLoop, bind_ok current, bind_ok (usePcb_apply live), bind_ok (get_apply c)]
  generalize hk : min (buf.length - req.sent.toNat) c.sndBuf.toNat = k
  have hsome : k ≠ 0 := hk ▸ some_
  dsimp only
  rw [if_neg hsome, bind_ok (tcpWrite_refused refused), if_neg refused.1, if_neg refused.2]

theorem writeBufLoop_accepts (accepted : env.tcpWrite c.asked = errOk)
    (more : (req.sent + UInt32.ofNat (toWrite c req buf)).toNat < buf.length) :
    writeBufLoop env cb id buf (fuel + 1) c =
      writeBufLoop env cb id buf fuel (c.wrote id req
        ((buf.drop req.sent.toNat).take (toWrite c req buf)) (toWrite c req buf)) := by
  rw [writeBufLoop, bind_ok current, bind_ok (usePcb_apply live), bind_ok (get_apply c)]
  unfold toWrite at some_ more ⊢
  generalize min (buf.length - req.sent.toNat) c.sndBuf.toNat = k at some_ more ⊢
  dsimp only
  rw [if_neg some_, bind_ok (tcpWrite_of_ok accepted), if_pos rfl, setReq,
    bind_ok (modify_apply _ _), bind_ok (modify_apply _ _), if_pos more]
  rfl

end Round

/-- A refused write ends the loop over its buffer with the code of the close. -/
theorem writeBufLoop_refused (hcb : cb.LeavesPcb) {id : Nat} {buf : Bytes}
    (writes : BufWrites env id buf c c₀) (refused : Refused env c₀) {fuel : Nat}
    {ret : Option Int} {c' : Client} (h : writeBufLoop env cb id buf fuel c = .ok ret c') :
    c'.pcb = false ∧ (ret = some errOk ∨ ret = some errAbrt) := by
  induction writes generalizing fuel with
  | first current live some_ =>
    cases fuel with
    | zero => cases h
    | succ fuel =>
      rw [writeBufLoop_refuses current live some_ refused] at h
      obtain ⟨code, c₁, hclose, hrest⟩ := bind_eq_ok h
      obtain ⟨rfl, rfl⟩ := EStateM.Result.ok.inj hrest
      obtain ⟨hpcb, hcode⟩ := clientCloseFunc_pcb hcb hclose
      exact ⟨hpcb, hcode.imp (congrArg some) (congrArg some)⟩
  | again current live some_ accepted more later ih =>
    cases fuel with
    | zero => cases h
    | succ fuel =>
      rw [writeBufLoop_accepts current live some_ accepted more] at h
      exact ih refused h

/-- And `uvl_imp_write_buf_to_tcp` with it. -/
theorem impWriteBufToTcp_refused (hcb : cb.LeavesPcb) {id : Nat} {req : WriteReq} {buf : Bytes}
    (current : getReq id c = .ok req c) (buffer : req.sendBufs[req.sentBufs]? = some buf)
    (writes : BufWrites env id buf c c₀) (refused : Refused env c₀) {ret : Int} {c' : Client}
    (h : impWriteBufToTcp env cb id c = .ok ret c') :
    c'.pcb = false ∧ (ret = errOk ∨ ret = errAbrt) := by
  simp only [impWriteBufToTcp, bind_ok current, buffer, bind_ok (get_apply c)] at h
  obtain ⟨code, c₁, hloop, hrest⟩ := bind_eq_ok h
  obtain ⟨hpcb, rfl | rfl⟩ := writeBufLoop_refused hcb writes refused hloop
  · obtain ⟨rfl, rfl⟩ := EStateM.Result.ok.inj hrest
    exact ⟨hpcb, .inl rfl⟩
  · obtain ⟨rfl, rfl⟩ := EStateM.Result.ok.inj hrest
    exact ⟨hpcb, .inr rfl⟩

/-! ## Going on with a closed client -/

/-- With a null `pcb` the loop over a buffer does not get past `tcp_sndbuf`. -/
theorem impWriteBufToTcp_null (null : c.pcb = false) (id : Nat) (ret : Int) (c' : Client) :
    impWriteBufToTcp env cb id c ≠ .ok ret c' := by
  intro h
  obtain ⟨req, c₁, hreq, hrun⟩ := bind_eq_ok h
  obtain rfl := getReq_state hreq
  cases hbuf : req.sendBufs[req.sentBufs]? with
  | none =>
    simp only [hbuf] at hrun
    cases hrun
  | some buf =>
    simp only [hbuf, bind_ok (get_apply c₁)] at hrun
    obtain ⟨code, c₂, hloop, -⟩ := bind_eq_ok hrun
    rw [writeBufLoop, bind_ok hreq, bind_error (usePcb_null null)] at hloop
    cases hloop

theorem writeLoop_null (null : c.pcb = false) {fuel : Nat} {req : Option Nat} {ended : Bool}
    {c' : Client} (h : writeLoop env cb fuel req c = .ok ended c') :
    ended = true ∧ c'.pcb = false := by
  cases req with
  | none =>
    rw [writeLoop] at h
    obtain ⟨rfl, rfl⟩ := EStateM.Result.ok.inj h
    exact ⟨rfl, null⟩
  | some id =>
    cases fuel with
    | zero => cases h
    | succ fuel =>
      rw [writeLoop] at h
      obtain ⟨ret, c₁, hbuf, -⟩ := bind_eq_ok h
      exact absurd hbuf (impWriteBufToTcp_null null id ret c₁)

/-- After a refused write the loop over the queue comes to its end, if it does not fault. -/
theorem writeLoop_refused (hcb : cb.LeavesPcb) {req : Option Nat}
    (writes : LoopWrites env cb req c c₀) (refused : Refused env c₀) {fuel : Nat} {ended : Bool}
    {c' : Client} (h : writeLoop env cb fuel req c = .ok ended c') :
    ended = true ∧ c'.pcb = false := by
  induction writes generalizing fuel with
  | here current buffer writes =>
    cases fuel with
    | zero => cases h
    | succ fuel =>
      rw [writeLoop] at h
      obtain ⟨ret, c₁, hbuf, hrest⟩ := bind_eq_ok h
      obtain ⟨hpcb, rfl | rfl⟩ := impWriteBufToTcp_refused hcb current buffer writes refused hbuf
      · obtain ⟨rfl, rfl⟩ := EStateM.Result.ok.inj hrest
        exact ⟨rfl, hpcb⟩
      · -- -13 is neither 0 nor -1
        rw [if_neg (by decide), if_neg (by decide)] at hrest
        obtain ⟨req, c₂, hreq, hgoes⟩ := bind_eq_ok hrest
        obtain rfl := getReq_state hreq
        rw [ite_run] at hgoes
        split_ifs at hgoes
        · exact writeLoop_null hpcb hgoes
        · exact writeLoop_null hpcb hgoes
  | next before goes current later ih =>
    cases fuel with
    | zero => cases h
    | succ fuel =>
      rw [writeLoop, bind_ok before, if_neg goes.1, if_neg goes.2, bind_ok current,
        ite_run] at h
      refine ih refused (?_ : writeLoop env cb fuel _ _ = _)
      split_ifs at h ⊢
      · exact h
      · exact h

/-- A call that has a write refused does not return. -/
theorem impWriteToTcp_refused (hcb : cb.LeavesPcb) (writes : Writes env cb c c₀)
    (refused : Refused env c₀) (c' : Client) : impWriteToTcp env cb c ≠ .ok () c' := by
  intro h
  obtain ⟨first, hfirst, hwrites⟩ := writes
  rw [impWriteToTcp, bind_ok (get_apply c), ite_run] at h
  split_ifs at h with hassert
  · cases h
  · rw [bind_ok hfirst] at h
    obtain ⟨ended, c₁, hloop, hrest⟩ := bind_eq_ok h
    obtain ⟨rfl, hpcb⟩ := writeLoop_refused hcb hwrites refused hloop
    rw [if_pos rfl, bind_error (usePcb_null hpcb)] at hrest
    cases hrest

/-- **A refused write.** The call that meets one stops there exactly when there is none to
meet: whenever lwIP answers a `tcp_write` with an error other than `ERR_MEM`, the client is
closed and then used again. -/
theorem stops_when_refused_iff (env : Env) (cb : Callbacks) (hcb : cb.LeavesPcb) (c : Client) :
    StopsWhenRefused env cb c ↔
      ∀ c₀, Writes env cb c c₀ →
        env.tcpWrite c₀.asked = errOk ∨ env.tcpWrite c₀.asked = errMem := by
  constructor
  · intro h c₀ writes
    by_contra hanswer
    have hrefused : Refused env c₀ := not_or.mp hanswer
    obtain ⟨ret, c₁, -, hreturns, -⟩ := h c₀ writes hrefused
    exact impWriteToTcp_refused hcb writes hrefused c₁ hreturns
  · intro h c₀ writes refused
    exact absurd (h c₀ writes) (not_or.mpr refused)

/-- A connection that has submitted one byte. -/
def oneByte : Client := after (handle .calm (.quiet some) (.write [[1]]) (Client.init 8))

theorem writes_oneByte (env : Env) : Writes env (.quiet some) oneByte oneByte :=
  ⟨some 0, rfl, .here rfl rfl (.first rfl rfl (by decide))⟩

theorem quiet_leavesPcb (allocCb : Nat → Option Nat) : (Callbacks.quiet allocCb).LeavesPcb := by
  intro reading c c' h null
  obtain ⟨-, rfl⟩ := EStateM.Result.ok.inj h
  exact null

theorem stops_when_refused_iff_calm :
    Writes .calm (.quiet some) oneByte oneByte ∧ StopsWhenRefused .calm (.quiet some) oneByte :=
  ⟨writes_oneByte _,
    (stops_when_refused_iff _ _ (quiet_leavesPcb some) _).mpr fun _ _ => .inl rfl⟩

/-- lwIP answers every write with `ERR_CONN`, and every close with this. -/
def refusing (close : Int) : Env :=
  { Env.calm with tcpWrite := fun _ => -11, tcpClose := fun _ => close }

/-- Closed, the client's null `pcb` is given to `tcp_output`; aborted, to `tcp_sndbuf`. -/
theorem refused_write_uses_null :
    Writes (refusing errOk) (.quiet some) oneByte oneByte ∧
      faultOf (impWriteToTcp (refusing errOk) (.quiet some) oneByte) = some .nullPointer ∧
      Writes (refusing errMem) (.quiet some) oneByte oneByte ∧
      faultOf (impWriteToTcp (refusing errMem) (.quiet some) oneByte) = some .nullPointer :=
  ⟨writes_oneByte _, by decide, writes_oneByte _, by decide⟩

end Grid0Relay.Uvl
