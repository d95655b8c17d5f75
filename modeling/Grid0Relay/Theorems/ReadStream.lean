import Grid0Relay.Lwip.Client

/-!
# The read stream of a client

Received data waits in a side buffer until the deferred callback hands it out, while the
peer's FIN is reported at once. The data handed out is always a prefix of the data
accepted; the end of the stream is reported after all of it only where the side buffer
is empty at that moment.
-/

namespace Grid0Relay.Uvl

open Lib Lib.Exec

/-! ## Statement -/

/-- The data among the calls of `read_cb`. -/
def readings (delivered : List Reading) : Bytes :=
  delivered.flatMap fun
    | .data bytes => bytes
    | _ => []

theorem readings_append (a b : List Reading) : readings (a ++ b) = readings a ++ readings b :=
  List.flatMap_append

/-- What the read stream promises. -/
structure Delivers (c : Client) : Prop where
  stream : readings c.delivered <+: c.received
  eof : ∀ before after, c.delivered = before ++ .eof :: after → readings before = c.received

/-- Read callbacks that leave the client alone, and 64 KiB from `alloc_cb`. -/
structure Callbacks.Reads (cb : Callbacks) : Prop where
  readCb : ∀ reading c, cb.readCb reading c = .ok () c
  allocCb : cb.allocCb 65536 = some 65536

/-- The calls of a client that only reads: data segments until the FIN, starting, stopping
and the deferred callback. -/
def ReadCall (c : Client) : Event → Prop
  | .recv p => c.closed = false ∧ p ≠ some []
  | .readStart | .readStop | .asyncRead => True
  | _ => False

def ReadsOnly (ready : Client → Event → Prop) (c : Client) (_ : Env) (cb : Callbacks)
    (event : Event) : Prop :=
  cb.Reads ∧ ready c event ∧ ReadCall c event

/-- The end of the stream is reported with nothing in the side buffer: by a FIN while
reading, and by `uvl_read_start` after it. -/
def EofReady (c : Client) : Event → Prop
  | .recv none => c.readCb = true → c.recvBuf = []
  | .readStart => c.closed = true → c.readCb = false → c.recvBuf = []
  | _ => True

/-! ## The invariant -/

/-- The side buffer holds what was accepted and not handed out. -/
structure Buffers (c : Client) : Prop where
  buffer : readings c.delivered ++ c.recvBuf = c.received
  size : c.recvBuf.length ≤ recvBufLen
  pcb : c.pcb = !c.closed
  reading : c.readCb = true → c.closed = false
  eof : ∀ before after, c.delivered = before ++ .eof :: after →
    readings before = c.received ∧ c.closed = true

theorem Buffers.delivers {c : Client} (h : Buffers c) : Delivers c :=
  ⟨⟨c.recvBuf, h.buffer⟩, fun before after hsplit => (h.eof before after hsplit).1⟩

theorem buffers_init (sndBuf : UInt16) : Buffers (Client.init sndBuf) := by
  refine ⟨rfl, Nat.zero_le _, rfl, fun _ => rfl, ?_⟩
  intro before after hsplit
  simp [Client.init] at hsplit

/-- One more call of `read_cb`: the ends of the stream are the old ones and, perhaps, it. -/
theorem eof_snoc {P : List Reading → Prop} {delivered : List Reading} {reading : Reading}
    (old : ∀ before after, delivered = before ++ .eof :: after → P before)
    (new : reading = .eof → P delivered) :
    ∀ before after, delivered ++ [reading] = before ++ .eof :: after → P before := by
  intro before after h
  rcases List.eq_nil_or_concat after with rfl | ⟨init, last, rfl⟩
  · obtain ⟨rfl, hlast⟩ := List.append_inj' h rfl
    exact new (List.cons.inj hlast).1
  · rw [List.concat_eq_append, ← List.cons_append, ← List.append_assoc] at h
    exact old before init (List.append_inj' h rfl).1

/-! ## Steps -/

section Steps

variable {c : Client} {cb : Callbacks} {env : Env}

/-- Handing out one more reading that carries no data. -/
theorem readings_snoc_eof (delivered : List Reading) : readings (delivered ++ [.eof]) =
    readings delivered := by
  rw [readings_append]
  exact List.append_nil _

theorem Buffers.freed (h : Buffers c) (ready : c.readCb = true → c.recvBuf = []) (n : Nat) :
    Buffers { c with asked := n }.freed := by
  refine ⟨?_, h.size, rfl, fun hread => absurd hread (by simp [Client.freed]), ?_⟩
  · change readings (if c.readCb then c.delivered ++ [.eof] else c.delivered) ++ c.recvBuf = _
    split
    · rw [readings_snoc_eof]
      exact h.buffer
    · exact h.buffer
  · change ∀ before after, (if c.readCb then c.delivered ++ [.eof] else c.delivered) =
      before ++ .eof :: after → readings before = c.received ∧ true = true
    split
    · rename_i hread
      refine eof_snoc (fun before after hsplit => ⟨(h.eof before after hsplit).1, rfl⟩) ?_
      intro _
      have hbuffer := h.buffer
      rw [ready hread, List.append_nil] at hbuffer
      exact ⟨hbuffer, rfl⟩
    · exact fun before after hsplit => ⟨(h.eof before after hsplit).1, rfl⟩

theorem Buffers.recv (h : Buffers c) (hcb : cb.Reads) (opened : c.closed = false) {p : Option Bytes}
    (hp : p ≠ some []) (ready : EofReady c (.recv p)) :
    ∃ ret c', clientRecvFunc env cb p c = .ok ret c' ∧ Buffers c' := by
  have hpcb : c.pcb = true := by rw [h.pcb, opened]; rfl
  rw [clientRecvFunc, bind_ok (get_apply c), if_neg (by simp [opened])]
  cases p with
  | none =>
    obtain ⟨ret, hrun⟩ := clientCloseFunc_silent hcb.readCb env opened hpcb
    exact ⟨ret, _, hrun, h.freed ready _⟩
  | some data =>
    have hdata : ¬ data.length = 0 := fun hlen => hp (by rw [List.length_eq_zero_iff.mp hlen])
    dsimp only
    rw [if_neg hdata, ite_run]
    split
    · exact ⟨_, c, rfl, h⟩
    · rename_i hroom
      refine ⟨_, _, rfl, ?_, ?_, h.pcb, h.reading, ?_⟩
      · change readings c.delivered ++ (c.recvBuf ++ data) = c.received ++ data
        rw [← List.append_assoc, h.buffer]
      · change (c.recvBuf ++ data).length ≤ recvBufLen
        have := h.size
        rw [List.length_append]
        omega
      · -- the connection is open, so no end of the stream was reported
        intro before after hsplit
        have hclosed := (h.eof before after hsplit).2
        rw [opened] at hclosed
        cases hclosed

theorem Buffers.readStart (h : Buffers c) (hcb : cb.Reads) (ready : EofReady c .readStart) :
    ∃ ret c', readStart env cb c = .ok ret c' ∧ Buffers c' := by
  rw [Uvl.readStart, bind_ok (get_apply c), ite_run]
  by_cases hread : c.readCb = true
  · rw [if_pos hread]
    exact ⟨false, c, rfl, h⟩
  · rw [if_neg hread]
    have hidle : c.readCb = false := Bool.eq_false_of_not_eq_true hread
    by_cases hclosed : c.closed = true
    · have hbuffer := h.buffer
      rw [ready hclosed hidle, List.append_nil] at hbuffer
      rw [if_pos hclosed, bind_ok (callReadCb_silent hcb.readCb .eof)]
      refine ⟨true, _, rfl, ?_, h.size, h.pcb, h.reading, ?_⟩
      · change readings (c.delivered ++ [.eof]) ++ c.recvBuf = c.received
        rw [readings_snoc_eof]
        exact h.buffer
      · exact eof_snoc h.eof fun _ => ⟨hbuffer, hclosed⟩
    · rw [if_neg hclosed, ask, bind_ok (modifyGet_apply _ c), ite_run]
      have hopen : c.closed = false := Bool.eq_false_of_not_eq_true hclosed
      split
      · exact ⟨true, _, rfl, h.buffer, h.size, h.pcb, fun _ => hopen, h.eof⟩
      · exact ⟨false, _, rfl, h.buffer, h.size, h.pcb, h.reading, h.eof⟩

theorem Buffers.asyncRead (h : Buffers c) (hcb : cb.Reads) :
    ∃ c', asyncTcpReadCb cb c = .ok () c' ∧ Buffers c' := by
  rw [asyncTcpReadCb, bind_ok (get_apply c), ite_run]
  by_cases hready : c.readCb = true ∧ c.recvBuf.length > 0
  · have hpcb : c.pcb = true := by rw [h.pcb, h.reading hready.1]; rfl
    have hroom : ¬ 65536 < c.recvBuf.length := by
      have hsize := h.size
      rw [recvBufLen] at hsize
      omega
    rw [if_pos hready, hcb.allocCb]
    dsimp only
    rw [if_neg hroom, bind_ok (usePcb_apply hpcb), bind_ok (modify_apply _ c),
      callReadCb_silent hcb.readCb]
    refine ⟨_, rfl, ?_, Nat.zero_le _, h.pcb, h.reading, ?_⟩
    · change readings (c.delivered ++ [.data c.recvBuf]) ++ [] = c.received
      rw [readings_append, List.append_nil]
      have hone : readings [.data c.recvBuf] = c.recvBuf := List.append_nil _
      rw [hone]
      exact h.buffer
    · exact eof_snoc h.eof fun hne => by cases hne
  · rw [if_neg hready]
    exact ⟨c, rfl, h⟩

end Steps

theorem Buffers.step {c : Client} {env : Env} {cb : Callbacks} {event : Event} (h : Buffers c)
    (legal : ReadsOnly EofReady c env cb event) :
    ∃ c', handle env cb event c = .ok () c' ∧ Buffers c' := by
  obtain ⟨hcb, ready, hevent⟩ := legal
  cases event with
  | recv p =>
    obtain ⟨ret, c', hrun, h'⟩ := h.recv hcb hevent.1 hevent.2 ready
    exact ⟨c', by rw [handle, bind_ok hrun]; rfl, h'⟩
  | readStart =>
    obtain ⟨ret, c', hrun, h'⟩ := h.readStart hcb ready
    exact ⟨c', by rw [handle, bind_ok hrun]; rfl, h'⟩
  | readStop =>
    exact ⟨_, rfl, h.buffer, h.size, h.pcb, fun hread => absurd hread (by simp), h.eof⟩
  | asyncRead => exact h.asyncRead hcb
  | _ => exact hevent.elim

/-- Over every run that reports the end of the stream only with an empty side buffer, the
read stream delivers the bytes in order and the end after all of them. -/
theorem read_stream_delivers (c : Client) (life : Life (ReadsOnly EofReady) c) : Delivers c := by
  have hbuffers : Buffers c := by
    induction life with
    | init sndBuf => exact buffers_init sndBuf
    | step env cb event _ allowed ih =>
      obtain ⟨c', hrun, h'⟩ := ih.step allowed
      rw [hrun]
      exact h'
  exact hbuffers.delivers

/-! ## Two runs -/

/-- The client after a call, with 64 KiB from `alloc_cb`. -/
def readNext (c : Client) (event : Event) : Client := after (handle .calm (.quiet some) event c)

theorem life_readNext {ready : Client → Event → Prop} {c : Client} {event : Event}
    (life : Life (ReadsOnly ready) c) (hready : ready c event) (hevent : ReadCall c event) :
    Life (ReadsOnly ready) (readNext c event) :=
  .step .calm (.quiet some) event life ⟨⟨fun _ _ => rfl, rfl⟩, hready, hevent⟩

/-- A client that reads and has two bytes in its side buffer. -/
def bufferedClient : Client :=
  readNext (readNext (Client.init 0) .readStart) (.recv (some [1, 2]))

theorem life_bufferedClient {ready : Client → Event → Prop}
    (hstart : ready (Client.init 0) .readStart)
    (hrecv : ready (readNext (Client.init 0) .readStart) (.recv (some [1, 2]))) :
    Life (ReadsOnly ready) bufferedClient :=
  life_readNext (life_readNext (.init 0) hstart trivial) hrecv ⟨by decide, by decide⟩

theorem read_stream_delivers_drained :
    Delivers (readNext (readNext bufferedClient .asyncRead) (.recv none)) := by
  refine read_stream_delivers _ ?_
  have hbuffered : Life (ReadsOnly EofReady) bufferedClient :=
    life_bufferedClient (fun h => by cases h) trivial
  have hdrained : Life (ReadsOnly EofReady) (readNext bufferedClient .asyncRead) :=
    life_readNext hbuffered trivial trivial
  exact life_readNext hdrained (fun _ => by decide) ⟨by decide, by decide⟩

/-- A segment and the FIN behind it arrive before the deferred callback runs: the end of
the stream overtakes the data, which is never handed out. -/
theorem eof_overtakes_data :
    Life (ReadsOnly fun _ _ => True) (readNext (readNext bufferedClient (.recv none)) .asyncRead) ∧
      ¬ Delivers (readNext (readNext bufferedClient (.recv none)) .asyncRead) := by
  refine ⟨?_, ?_⟩
  · have hbuffered : Life (ReadsOnly fun _ _ => True) bufferedClient :=
      life_bufferedClient trivial trivial
    have hclosed : Life (ReadsOnly fun _ _ => True) (readNext bufferedClient (.recv none)) :=
      life_readNext hbuffered trivial ⟨by decide, by decide⟩
    exact life_readNext hclosed trivial trivial
  · intro h
    have hempty := h.eof [] [] (by decide)
    exact absurd hempty (by decide)

end Grid0Relay.Uvl
