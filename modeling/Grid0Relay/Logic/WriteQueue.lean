import Grid0Relay.Lib.Fifo
import Grid0Relay.Lwip.Client

/-!
# The write queue of a client

Requests are appended to the arena and leave the queue at its head, so the queue is a
final segment of the arena (`Queued`). The loops of `uv_lwip.c` walk it through the
pointers; each becomes a function on the list of the requests ahead.
-/

namespace Grid0Relay.Uvl

open Lib Lib.Exec Lib.Fifo

/-! ## Walking -/

/-- A walk has passed `front` and has `ahead` before it; the callbacks invoked so far
belong to requests it has passed. -/
structure At (c : Client) (front ahead : List WriteReq) : Prop where
  reqs : c.reqs = front ++ ahead
  threaded : Threaded WriteReq.next c.reqs.length front.length ahead
  live : ∀ call ∈ c.called, call.1 < front.length

section Walk

variable {c : Client} {front ahead : List WriteReq} {req req' : WriteReq}

theorem At.link_cons (at_ : At c front (req :: ahead)) :
    link c.reqs.length front.length = some front.length := by
  apply link_of_lt
  rw [at_.reqs, List.length_append, List.length_cons]
  omega

theorem At.link_nil (at_ : At c front []) : link c.reqs.length front.length = none := by
  rw [at_.reqs, List.append_nil, link_self]

theorem At.next (at_ : At c front (req :: ahead)) :
    req.next = link c.reqs.length (front.length + 1) := at_.threaded.1

/-- The pointer a walk follows when it has rewritten the request under it. -/
theorem At.link_advance (at_ : At c front (req :: ahead)) :
    link (front ++ req' :: ahead).length (front ++ [req']).length = req.next := by
  have hlen : (front ++ req' :: ahead).length = c.reqs.length := by
    rw [at_.reqs, List.length_append, List.length_append]
    rfl
  rw [hlen, List.length_append, at_.next]
  rfl

theorem getReq_append (hreqs : c.reqs = front ++ req :: ahead)
    (hlive : ∀ call ∈ c.called, call.1 < front.length) : getReq front.length c = .ok req c := by
  have hfresh : c.called.any (fun call => call.1 == front.length) = false := by
    rw [List.any_eq_false]
    intro call hcall
    have := hlive call hcall
    simp only [beq_iff_eq]
    omega
  have hget : c.reqs[front.length]? = some req := by
    rw [hreqs, List.getElem?_append_right (Nat.le_refl _), Nat.sub_self]
    rfl
  simp only [getReq, bind_ok (get_apply c), hfresh, Bool.false_eq_true, if_false, hget]
  rfl

theorem set_append (hreqs : c.reqs = front ++ req :: ahead) :
    c.reqs.set front.length req' = front ++ req' :: ahead := by
  rw [hreqs, List.set_append_right _ _ (Nat.le_refl _), Nat.sub_self]
  rfl

theorem setReq_append (hreqs : c.reqs = front ++ req :: ahead) :
    setReq front.length req' c = .ok () { c with reqs := front ++ req' :: ahead } := by
  rw [setReq, modify_apply, set_append hreqs]

theorem At.getReq (at_ : At c front (req :: ahead)) : getReq front.length c = .ok req c :=
  getReq_append at_.reqs at_.live

theorem At.setReq (at_ : At c front (req :: ahead)) :
    setReq front.length req' c = .ok () { c with reqs := front ++ req' :: ahead } :=
  setReq_append at_.reqs

/-- Rewriting the request under the walk. -/
theorem At.rewrite (at_ : At c front (req :: ahead)) (same : req'.next = req.next) :
    At { c with reqs := front ++ req' :: ahead } front (req' :: ahead) := by
  refine ⟨rfl, ?_, at_.live⟩
  have hlen : (front ++ req' :: ahead).length = c.reqs.length := by
    rw [at_.reqs, List.length_append, List.length_append]
    rfl
  change Threaded WriteReq.next (front ++ req' :: ahead).length front.length (req' :: ahead)
  rw [hlen]
  exact ⟨same.trans at_.threaded.1, at_.threaded.2⟩

/-- Walking on over several requests. -/
theorem At.skip {rest : List WriteReq} (at_ : At c front (ahead ++ rest)) :
    At c (front ++ ahead) rest := by
  refine ⟨by rw [at_.reqs, List.append_assoc], ?_, ?_⟩
  · rw [List.length_append]
    exact (threaded_append.mp at_.threaded).2
  · intro call hcall
    have := at_.live call hcall
    rw [List.length_append]
    omega

theorem At.advance (at_ : At c front (req :: ahead)) : At c (front ++ [req]) ahead :=
  At.skip at_

end Walk

/-! ## The queue -/

/-- The client's queue holds `queue`, and the requests of `past` have left it through
their callbacks, in order. -/
structure Queued (c : Client) (past queue : List WriteReq) : Prop where
  reqs : c.reqs = past ++ queue
  cur : c.curWrite = link c.reqs.length past.length
  tail : c.tailWrite = if queue = [] then none else some (c.reqs.length - 1)
  threaded : Threaded WriteReq.next c.reqs.length past.length queue
  called : c.called.map Prod.fst = List.range past.length

theorem Queued.at {c : Client} {past queue : List WriteReq} (h : Queued c past queue) :
    At c past queue := by
  refine ⟨h.reqs, h.threaded, ?_⟩
  intro call hcall
  have hmem : call.1 ∈ c.called.map Prod.fst := List.mem_map_of_mem hcall
  rw [h.called, List.mem_range] at hmem
  exact hmem

/-- The requests change, but not their pointers. -/
theorem Queued.congr {c c' : Client} {past queue queue' : List WriteReq} (h : Queued c past queue)
    (hreqs : c'.reqs = past ++ queue') (hnext : queue'.map WriteReq.next = queue.map WriteReq.next)
    (hcur : c'.curWrite = c.curWrite) (htail : c'.tailWrite = c.tailWrite)
    (hcalled : c'.called = c.called) : Queued c' past queue' := by
  have hsame : queue'.length = queue.length := by
    have hmap := congrArg List.length hnext
    rwa [List.length_map, List.length_map] at hmap
  have hlen : c'.reqs.length = c.reqs.length := by
    rw [hreqs, h.reqs, List.length_append, List.length_append, hsame]
  have hnil : queue' = [] ↔ queue = [] := by
    rw [← List.length_eq_zero_iff, ← List.length_eq_zero_iff, hsame]
  refine ⟨hreqs, ?_, ?_, ?_, ?_⟩
  · rw [hcur, h.cur, hlen]
  · rw [htail, h.tail, hlen]
    simp only [hnil]
  · rw [hlen]
    exact h.threaded.congr hnext
  · rw [hcalled, h.called]

/-- A request up to its place in the queue. -/
def WriteReq.body (req : WriteReq) : WriteReq := { req with next := none }

/-- `uvl_write` appends a request and relinks the one before it. -/
theorem write_queued {c : Client} {past queue : List WriteReq} (env : Env) (bufs : List Bytes)
    (h : Queued c past queue) :
    ∃ queue' c', write env bufs c = .ok (env.asyncSend c.asked) c' ∧
      Queued c' past (queue' ++ [WriteReq.init bufs]) ∧
      queue'.map WriteReq.body = queue.map WriteReq.body ∧
      c' = { c with
        reqs := c'.reqs, curWrite := c'.curWrite, tailWrite := c'.tailWrite,
        asked := c.asked + 1 } := by
  rcases List.eq_nil_or_concat queue with rfl | ⟨init, last, rfl⟩
  · obtain rfl : past = c.reqs := by rw [h.reqs, List.append_nil]
    have hcur : c.curWrite = none := by rw [h.cur, link_self]
    have htail : c.tailWrite = none := h.tail
    refine ⟨[], { c with
      reqs := c.reqs ++ [WriteReq.init bufs]
      curWrite := some c.reqs.length
      tailWrite := some c.reqs.length
      asked := c.asked + 1 }, ?_, ?_, rfl, rfl⟩
    · simp only [write, bind_ok (get_apply c), htail, hcur, Option.isNone_none, if_true]
      rfl
    · refine ⟨rfl, ?_, ?_, ⟨?_, trivial⟩, h.called⟩
      · simp [link]
      · simp
      · simp [WriteReq.init, link]
  · have hlen : c.reqs.length = (past ++ init).length + 1 := by
      rw [h.reqs]
      simp only [List.concat_eq_append, List.length_append, List.length_singleton]
      omega
    have hcur : c.curWrite = some past.length := by
      rw [h.cur, link_of_lt]
      rw [hlen, List.length_append]
      omega
    have htail : c.tailWrite = some (past ++ init).length := by
      rw [h.tail, hlen]
      simp
    have hsplit : c.reqs ++ [WriteReq.init bufs] =
        (past ++ init) ++ last :: [WriteReq.init bufs] := by
      rw [h.reqs]
      simp
    have hlive : ∀ call ∈ c.called, call.1 < (past ++ init).length := by
      intro call hcall
      have := h.at.live call hcall
      rw [List.length_append]
      omega
    have hthread := h.threaded
    rw [List.concat_eq_append, threaded_append] at hthread
    refine ⟨init ++ [{ last with next := some c.reqs.length }], { c with
      reqs := (past ++ init) ++ { last with next := some c.reqs.length } :: [WriteReq.init bufs]
      tailWrite := some c.reqs.length
      asked := c.asked + 1 }, ?_, ?_, ?_, rfl⟩
    · have hget : getReq (past ++ init).length { c with reqs := c.reqs ++ [WriteReq.init bufs] } =
          .ok last { c with reqs := c.reqs ++ [WriteReq.init bufs] } :=
        getReq_append hsplit hlive
      have hset : setReq (past ++ init).length { last with next := some c.reqs.length }
          { c with reqs := c.reqs ++ [WriteReq.init bufs] } = .ok () _ :=
        setReq_append hsplit
      have hfull : c.curWrite.isNone = false := by rw [hcur, Option.isNone_some]
      simp only [write, bind_ok (get_apply c), htail, hfull, Bool.false_eq_true, if_false]
      rw [bind_ok (modify_apply _ c), bind_ok hget, bind_ok hset]
      rfl
    · have hlen' : ((past ++ init) ++ { last with next := some c.reqs.length } ::
          [WriteReq.init bufs]).length = c.reqs.length + 1 := by
        rw [hlen, List.length_append]
        rfl
      refine ⟨?_, ?_, ?_, ?_, h.called⟩
      · simp
      · change c.curWrite = link _ _
        rw [hlen', hcur, link_of_lt]
        rw [hlen, List.length_append]
        omega
      · change some c.reqs.length = _
        rw [hlen']
        simp
      · change Threaded WriteReq.next (_ ++ _ :: _).length past.length _
        rw [hlen', List.append_assoc, threaded_append]
        have hpos : past.length + init.length + 1 = c.reqs.length := by
          rw [hlen, List.length_append]
        refine ⟨hthread.1.grow (by omega), ?_, ?_, trivial⟩
        · rw [hpos, link_of_lt (Nat.lt_succ_self _)]
        · rw [hpos, link_self]
          rfl
    · simp [WriteReq.body]

/-! ## Acknowledgements -/

/-- `uvl_client_sent_func` on the queue. -/
def debit : Nat → List WriteReq → List WriteReq
  | _, [] => []
  | len, req :: queue =>
    let toSub := min req.pending.toNat len
    { req with pending := req.pending - UInt32.ofNat toSub } :: debit (len - toSub) queue

/-- The bytes of a queue that are written and not acknowledged. -/
def pendingSum (queue : List WriteReq) : Nat := (queue.map fun req => req.pending.toNat).sum

theorem pendingSum_append (front queue : List WriteReq) :
    pendingSum (front ++ queue) = pendingSum front + pendingSum queue := by
  rw [pendingSum, List.map_append, List.sum_append]
  rfl

theorem pendingSum_complete {queue : List WriteReq} (h : ∀ req ∈ queue, req.Complete) : pendingSum queue = 0 := by
  induction queue with
  | nil => rfl
  | cons req queue ih =>
    rw [List.forall_mem_cons] at h
    have hcons : pendingSum (req :: queue) = req.pending.toNat + pendingSum queue := rfl
    rw [hcons, ih h.2, h.1.2]
    rfl

theorem debit_zero (queue : List WriteReq) : debit 0 queue = queue := by
  induction queue with
  | nil => rfl
  | cons req queue ih =>
    have hzero : UInt32.ofNat 0 = 0 := rfl
    simp only [debit, Nat.min_zero, Nat.sub_zero, ih, hzero, UInt32.sub_zero]

theorem toNat_debited (req : WriteReq) (len : Nat) :
    (req.pending - UInt32.ofNat (min req.pending.toNat len)).toNat =
      req.pending.toNat - min req.pending.toNat len := by
  have hlt : req.pending.toNat < UInt32.size := req.pending.toNat_lt
  have hof : (UInt32.ofNat (min req.pending.toNat len)).toNat = min req.pending.toNat len :=
    UInt32.toNat_ofNat_of_lt' (by omega)
  rw [UInt32.toNat_sub_of_le _ _ (by rw [UInt32.le_iff_toNat_le, hof]; omega), hof]

theorem pendingSum_debit {len : Nat} {queue : List WriteReq} (enough : len ≤ pendingSum queue) :
    pendingSum (debit len queue) + len = pendingSum queue := by
  induction queue generalizing len with
  | nil => simpa [pendingSum, debit] using enough
  | cons req queue ih =>
    have hcons : ∀ r q, pendingSum (r :: q) = r.pending.toNat + pendingSum q := fun r q => rfl
    rw [hcons] at enough
    have hleft : len - min req.pending.toNat len ≤ pendingSum queue := by omega
    have hrest := ih hleft
    simp only [debit, hcons, toNat_debited]
    omega

theorem sentLoop_at {c : Client} {front ahead : List WriteReq} {fuel len : Nat}
    (at_ : At c front ahead) (hfuel : ahead.length ≤ fuel) (enough : len ≤ pendingSum ahead) :
    sentLoop fuel (link c.reqs.length front.length) len c =
      .ok () { c with reqs := front ++ debit len ahead } := by
  induction ahead generalizing c front fuel len with
  | nil =>
    have hzero : len = 0 := Nat.le_zero.mp enough
    subst hzero
    rw [debit_zero, ← at_.reqs, sentLoop]
    rfl
  | cons req ahead ih =>
    cases len with
    | zero =>
      rw [debit_zero, ← at_.reqs, sentLoop]
      rfl
    | succ len =>
      cases fuel with
      | zero => cases hfuel
      | succ fuel =>
        have hcons : pendingSum (req :: ahead) = req.pending.toNat + pendingSum ahead := rfl
        rw [hcons] at enough
        have hleft : len + 1 - min req.pending.toNat (len + 1) ≤ pendingSum ahead := by
          omega
        have hmoved : At _ front
            ({ req with
                pending := req.pending -
                  UInt32.ofNat (min req.pending.toNat (len + 1)) } :: ahead) :=
          at_.rewrite rfl
        have hih := ih hmoved.advance (Nat.le_of_succ_le_succ hfuel) hleft
        rw [at_.link_cons, sentLoop, bind_ok at_.getReq, bind_ok at_.setReq]
        refine Eq.trans ?_ (hih.trans ?_)
        · rw [at_.link_advance]
        · rw [List.append_assoc]
          rfl
        · exact Nat.succ_ne_zero len

/-! ## Callbacks -/

/-- One callback with this status for each of the requests, which start at `first`. -/
def calls (status : Status) (first : Nat) (reqs : List WriteReq) : List (Nat × Status) :=
  (List.range' first reqs.length).map fun id => (id, status)

theorem calls_cons (status : Status) (first : Nat) (req : WriteReq) (reqs : List WriteReq) :
    calls status first (req :: reqs) = (first, status) :: calls status (first + 1) reqs := rfl

theorem map_fst_calls (status : Status) (first : Nat) (reqs : List WriteReq) :
    (calls status first reqs).map Prod.fst = List.range' first reqs.length := by
  rw [calls, List.map_map]
  exact List.map_id _

/-- The request under the walk leaves through its callback. -/
theorem At.leave {c : Client} {front ahead : List WriteReq} {req : WriteReq} (status : Status)
    (cur : Option Nat) (at_ : At c front (req :: ahead)) :
    At { c with curWrite := cur, called := c.called ++ [(front.length, status)] }
      (front ++ [req]) ahead := by
  refine ⟨at_.advance.reqs, at_.advance.threaded, ?_⟩
  intro call hcall
  rcases List.mem_append.mp hcall with hold | hnew
  · exact at_.advance.live call hold
  · rw [List.mem_singleton.mp hnew, List.length_append]
    exact Nat.lt_succ_self _

theorem cancelLoop_at {cb : Callbacks} {c : Client} {front ahead : List WriteReq} {fuel : Nat}
    (silent : ∀ id c, cb.writeCb id .canceled c = .ok () c) (at_ : At c front ahead)
    (hfuel : ahead.length ≤ fuel) :
    cancelLoop cb fuel (link c.reqs.length front.length) c =
      .ok () { c with called := c.called ++ calls .canceled front.length ahead } := by
  induction ahead generalizing c front fuel with
  | nil =>
    rw [at_.link_nil, cancelLoop, calls, List.length_nil, List.range'_zero, List.map_nil,
      List.append_nil]
    rfl
  | cons req ahead ih =>
    cases fuel with
    | zero => cases hfuel
    | succ fuel =>
      have hcall : callWriteCb cb front.length .canceled c =
          .ok () { c with called := c.called ++ [(front.length, .canceled)] } := by
        rw [callWriteCb, bind_ok (modify_apply _ c)]
        exact silent _ _
      have hih := ih (at_.leave .canceled c.curWrite) (Nat.le_of_succ_le_succ hfuel)
      rw [at_.link_cons, cancelLoop, bind_ok at_.getReq, bind_ok hcall]
      refine Eq.trans ?_ (hih.trans ?_)
      · rw [at_.next, List.length_append]
        rfl
      · rw [calls_cons, List.length_append, List.append_assoc]
        rfl

/-- The client after the callbacks of the completed requests. -/
def Client.popped (c : Client) (front done : List WriteReq) : Client :=
  { c with
    curWrite := link c.reqs.length (front ++ done).length
    called := c.called ++ calls .ok front.length done }

theorem popped_nil {c : Client} {front : List WriteReq}
    (hcur : c.curWrite = link c.reqs.length front.length) : c.popped front [] = c := by
  rw [Client.popped, List.append_nil, ← hcur, calls, List.length_nil, List.range'_zero,
    List.map_nil, List.append_nil]

theorem popped_cons {c : Client} {front done : List WriteReq} {req : WriteReq} (cur : Option Nat) :
    ({ c with curWrite := cur, called := c.called ++ [(front.length, .ok)] } : Client).popped
      (front ++ [req]) done = c.popped front (req :: done) := by
  simp only [Client.popped, calls_cons, List.append_assoc, List.length_append,
    List.singleton_append, List.length_cons, List.length_nil, Nat.zero_add]

/-- The completion loop, for callbacks that call nothing while requests are queued behind
theirs: the callback of the last request of the queue is its last action. -/
theorem completeLoop_at {cb : Callbacks} {c : Client} {front ahead : List WriteReq} {fuel : Nat}
    (silent : ∀ id c, c.curWrite ≠ none → cb.writeCb id .ok c = .ok () c)
    (at_ : At c front ahead) (hcur : c.curWrite = link c.reqs.length front.length)
    (hfuel : ahead.length ≤ fuel) :
    ∃ done rest, ahead = done ++ rest ∧ (∀ req ∈ done, req.Complete) ∧
      (∀ req ∈ rest.head?, ¬ req.Complete) ∧
      completeLoop cb fuel (link c.reqs.length front.length) c =
        if done ≠ [] ∧ rest = [] then
          cb.writeCb (c.reqs.length - 1) .ok (c.popped front done)
        else .ok () (c.popped front done) := by
  induction ahead generalizing c front fuel with
  | nil =>
    refine ⟨[], [], rfl, by simp, by simp, ?_⟩
    rw [if_neg (by simp), popped_nil hcur, at_.link_nil, completeLoop]
    rfl
  | cons req ahead ih =>
    cases fuel with
    | zero => cases hfuel
    | succ fuel =>
      rw [at_.link_cons, completeLoop, bind_ok at_.getReq]
      by_cases hdone : req.Complete
      · rw [if_pos hdone, bind_ok (modify_apply _ c), callWriteCb]
        have hleft := at_.leave .ok req.next
        cases ahead with
        | nil =>
          -- the last request: nothing is read after its callback
          have hnext : req.next = none := by
            have hend := at_.advance.link_nil
            rwa [List.length_append, List.length_singleton, ← at_.next] at hend
          refine ⟨[req], [], rfl, by simpa using hdone, by simp, ?_⟩
          have hid : c.reqs.length - 1 = front.length := by
            rw [at_.reqs, List.length_append]
            rfl
          have hpop : c.popped front [req] =
              { c with curWrite := none, called := c.called ++ [(front.length, .ok)] } := by
            rw [← popped_cons none, popped_nil]
            exact at_.advance.link_nil.symm
          rw [if_pos ⟨by simp, rfl⟩, hid, hnext, hpop, bind_assoc, bind_ok (modify_apply _ _)]
          have hend : completeLoop cb fuel none = pure () := by rw [completeLoop]
          rw [hend]
          exact bind_pure_unit _ _
        | cons req' ahead =>
          have hnext : req.next = some (front.length + 1) := by
            have hmore := at_.advance.link_cons
            rwa [List.length_append, List.length_singleton, ← at_.next] at hmore
          obtain ⟨done, rest, hsplit, hcomplete, hhead, hrun⟩ :=
            ih hleft (by rw [List.length_append]; exact at_.next)
              (Nat.le_of_succ_le_succ hfuel)
          refine ⟨req :: done, rest, by rw [hsplit]; rfl, ?_, hhead, ?_⟩
          · simpa [hdone] using hcomplete
          · have hsilent : ∀ c' : Client, c'.curWrite = req.next →
                cb.writeCb front.length .ok c' = .ok () c' := by
              intro c' hcur'
              apply silent
              rw [hcur', hnext]
              exact Option.some_ne_none _
            rw [bind_assoc, bind_ok (modify_apply _ _), bind_ok (hsilent _ rfl)]
            refine Eq.trans ?_ (hrun.trans ?_)
            · rw [at_.next, List.length_append]
              rfl
            · rw [popped_cons]
              by_cases hrest : rest = []
              · have hsome : done ≠ [] := by
                  rintro rfl
                  rw [hrest] at hsplit
                  cases hsplit
                rw [if_pos ⟨hsome, hrest⟩, if_pos ⟨List.cons_ne_nil _ _, hrest⟩]
              · rw [if_neg fun h => hrest h.2, if_neg fun h => hrest h.2]
      · refine ⟨[], req :: ahead, rfl, by simp, by simpa using hdone, ?_⟩
        rw [if_neg hdone, if_neg (by simp), popped_nil hcur]
        rfl

end Grid0Relay.Uvl
