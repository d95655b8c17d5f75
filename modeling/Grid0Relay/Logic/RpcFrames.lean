import Grid0Relay.Logic.RpcLines
import Grid0Relay.Rpc.WebSocket
import Mathlib.Data.List.Forall2

/-!
# The frames of a WebSocket stream

What a stream of bytes means on this transport, read one byte at a time: header
lines up to the handshake, then frames, each a sequence of fields. The decoder of
`WSConnection` works on chunks, and agrees with this reading as long as no field is
cut by a chunk boundary.
-/

namespace Grid0Relay.Rpc

open Lib Lib.Exec Lib.Stream

/-! ## What a stream means -/

/-- The field of a frame that comes next. -/
inductive Stage
  | header
  | length16 (mask : Bool) (opcode : UInt8)
  | length64 (mask : Bool) (opcode : UInt8)
  | maskKey (opcode : UInt8) (length : Nat)
  | payload (opcode : UInt8) (length : Nat) (key : Option Bytes)
deriving DecidableEq

/-- Its length. -/
def Stage.want : Stage → Nat
  | .header => 2
  | .length16 _ _ => 2
  | .length64 _ _ => 8
  | .maskKey _ _ => 4
  | .payload _ length _ => length

/-- A payload, which an empty one skips. -/
def Stage.body (opcode : UInt8) (length : Nat) (key : Option Bytes) : Stage × List Received :=
  if length = 0 then (.header, [⟨opcode, []⟩]) else (.payload opcode length key, [])

def Stage.afterLength (mask : Bool) (opcode : UInt8) (length : Nat) : Stage × List Received :=
  if mask then (.maskKey opcode length, []) else Stage.body opcode length none

/-- What a whole field leads to. -/
def Stage.next : Stage → Bytes → Stage × List Received
  | .header, xs =>
    if (xs.byte 1 &&& 0x7f).toNat = 126 then
      (.length16 (xs.byte 1 &&& 0x80 ≠ 0) (xs.byte 0 &&& 0x0f), [])
    else if (xs.byte 1 &&& 0x7f).toNat = 127 then
      (.length64 (xs.byte 1 &&& 0x80 ≠ 0) (xs.byte 0 &&& 0x0f), [])
    else Stage.afterLength (xs.byte 1 &&& 0x80 ≠ 0) (xs.byte 0 &&& 0x0f) (xs.byte 1 &&& 0x7f).toNat
  | .length16 mask opcode, xs => Stage.afterLength mask opcode (xs.net16 0)
  | .length64 mask opcode, xs =>
    Stage.afterLength mask opcode (xs.foldl (fun n b => n * 256 + b.toNat) 0)
  | .maskKey opcode length, xs => Stage.body opcode length (some xs)
  | .payload opcode _ key, xs =>
    (.header, [⟨opcode, match key with
      | some key => unmask key xs
      | none => xs⟩])

/-- Frames, byte by byte. -/
abbrev Stage.step : Stage × Bytes → UInt8 → (Stage × Bytes) × List Received :=
  fieldStep Stage.want Stage.next

/-- Where a connection is: in the request, in the frames, or refused. -/
inductive Phase
  | head (h : Head) (cur : Bytes)
  | frames (stage : Stage) (got : Bytes)
  | dead

/-- The phase a header line leads to. -/
def Phase.after (h : Head) : Phase :=
  match h.wsState with
  | .doHeader => .head h []
  | .waitHttp => .head h []
  | .waitDecodeHeader => .frames .header []
  | _ => .dead

def Phase.step : Phase → UInt8 → Phase × List Received
  | .head h cur, b =>
    if b = 10 then (.after (headerLine h (chomped cur)).1, []) else (.head h (cur ++ [b]), [])
  | .frames stage got, b =>
    let r := Stage.step (stage, got) b
    (.frames r.1.1 r.1.2, r.2)
  | .dead, _ => (.dead, [])

def Phase.start : Phase := .head ⟨.doHeader, [], []⟩ []

/-- The phase a stream leads to. -/
def phaseOf (stream : Bytes) : Phase := (Stream.run Phase.step .start stream).1

/-- The frames of a stream. -/
def framesOf (stream : Bytes) : List Received := (Stream.run Phase.step .start stream).2

theorem phaseOf_append (stream more : Bytes) :
    phaseOf (stream ++ more) = (Stream.run Phase.step (phaseOf stream) more).1 := by
  rw [phaseOf, run_append]
  rfl

theorem framesOf_append (stream more : Bytes) :
    framesOf (stream ++ more) =
      framesOf stream ++ (Stream.run Phase.step (phaseOf stream) more).2 := by
  rw [framesOf, run_append]
  rfl

/-- The payloads of the text frames. -/
def textsOf (frames : List Received) : List Bytes :=
  (frames.filter (·.opcode = 1)).map Received.payload

theorem run_frames (stage : Stage) (got xs : Bytes) :
    Stream.run Phase.step (.frames stage got) xs =
      (.frames (Stream.run Stage.step (stage, got) xs).1.1 (Stream.run Stage.step (stage, got) xs).1.2,
        (Stream.run Stage.step (stage, got) xs).2) :=
  run_map (f := fun s : Stage × Bytes => Phase.frames s.1 s.2) (fun _ _ => rfl) (stage, got) xs

theorem run_dead (xs : Bytes) : Stream.run Phase.step .dead xs = (.dead, []) := by
  induction xs with
  | nil => rfl
  | cons x xs ih => simp only [Stream.run, Phase.step, ih, List.nil_append]

/-- Bytes of a line. -/
theorem run_head_none {xs : Bytes} (h : 10 ∉ xs) (hd : Head) (cur : Bytes) :
    Stream.run Phase.step (.head hd cur) xs = (.head hd (cur ++ xs), []) := by
  induction xs generalizing cur with
  | nil => simp [Stream.run]
  | cons x xs ih =>
    rw [List.mem_cons, not_or] at h
    have hstep : Phase.step (.head hd cur) x = (.head hd (cur ++ [x]), []) :=
      if_neg (Ne.symm h.1)
    simp only [Stream.run, hstep, ih h.2, List.append_assoc, List.singleton_append, List.nil_append]

/-- A whole line. -/
theorem run_head_line {line : Bytes} (h : 10 ∉ line) (hd : Head) (rest : Bytes) :
    Stream.run Phase.step (.head hd []) (line ++ 10 :: rest) =
      Stream.run Phase.step (.after (headerLine hd (chomped line)).1) rest := by
  have hstep : Phase.step (.head hd line) 10 =
      (.after (headerLine hd (chomped line)).1, []) := by
    simp [Phase.step]
  simp only [run_append, run_head_none h, List.nil_append, Stream.run, hstep]

/-! ## One chunk in the buffer list -/

/-- The buffer list holds these bytes, and they are of one chunk. -/
inductive Holds : BufferList → Bytes → Prop
  | empty : Holds ⟨[], 0, 0⟩ []
  | chunk (item : Bytes) (offset : Nat) (inside : offset < item.length)
      (bound : item.length < 2 ^ 32) : Holds ⟨[item], item.length, offset⟩ (item.drop offset)

theorem Holds.size {bl : BufferList} {avail : Bytes} (h : Holds bl avail) :
    bl.size = avail.length := by
  cases h with
  | empty => decide
  | chunk item offset inside bound =>
    simp only [BufferList.size, List.length_drop]
    omega

theorem Holds.add {bl : BufferList} (h : Holds bl []) (chunk : Chunk) :
    Holds (bl.add chunk.bytes) chunk.bytes := by
  have hpos := List.length_pos_iff.mpr chunk.nonempty
  have hbound := chunk.bound
  generalize hnone : ([] : Bytes) = avail at h
  cases h with
  | empty =>
    have hsize : (0 + chunk.bytes.length) % 2 ^ 32 = chunk.bytes.length := by omega
    have hheld := Holds.chunk chunk.bytes 0 hpos (by omega)
    rw [List.drop_zero] at hheld
    simpa only [BufferList.add, List.nil_append, hsize] using hheld
  | chunk item offset inside bound =>
    have hlen := congrArg List.length hnone
    rw [List.length_nil, List.length_drop] at hlen
    omega

variable {δ : Type}

theorem Holds.get {bl : BufferList} {avail : Bytes} (h : Holds bl avail) (host : Host) {k : Nat}
    (hk : k < avail.length) : (bl.get host k : RpcM δ UInt8) = pure (avail.byte k) := by
  cases h with
  | empty => simp at hk
  | chunk item offset inside bound =>
    rw [List.length_drop] at hk
    have hidx : (k + offset) % 2 ^ 32 = offset + k := by omega
    have hbyte : Bytes.byte (item.drop offset) k = item.byte (offset + k) := by
      simp [Bytes.byte, List.getElem?_drop]
    simp only [BufferList.get, BufferList.getFrom, hidx, hbyte]
    rw [if_pos (by omega), if_pos (by omega), Nat.sub_zero]

theorem Holds.copyTo {bl : BufferList} {avail : Bytes} (h : Holds bl avail) (host : Host)
    {start n : Nat} (hn : start + n ≤ avail.length) :
    (bl.copyTo host start n : RpcM δ Bytes) = pure ((avail.drop start).take n) := by
  induction n generalizing start with
  | zero => rfl
  | succ n ih =>
    have hcons : (avail.drop start).take (n + 1) =
        avail.byte start :: (avail.drop (start + 1)).take n := by
      rw [List.drop_eq_getElem_cons (by omega), List.take_succ_cons,
        Bytes.byte_of_lt (by omega)]
    rw [BufferList.copyTo, h.get host (by omega), pure_bind, ih (by omega), pure_bind, hcons]

/-- Memory is there when it is asked for, and what lies where a chunk was does not read as
an empty one. -/
structure Host.Kind (host : Host) : Prop where
  stale : ∀ n, 0 < host.staleSize n
  allocates : ∀ n, host.allocates n = true

/-- Taking bytes off the front. When nothing is left the loop asks for the size of a
chunk that is not there. -/
theorem Holds.advance {bl : BufferList} {avail : Bytes} (h : Holds bl avail) (host : Host)
    {n : Nat} (hn : n ≤ avail.length) (w : World δ) :
    (∃ bl' asked, bl.advance host n w = .ok bl' { w with asked } ∧ Holds bl' (avail.drop n)) ∨
      ¬ host.Kind ∧ ∃ e asked, bl.advance host n w = .error e { w with asked } := by
  have hgone : ∀ avail' : Bytes, avail' = [] →
      (∃ bl' asked, BufferList.drop host [] 0 0 w = .ok bl' { w with asked } ∧ Holds bl' avail') ∨
      ¬ host.Kind ∧ ∃ e asked, BufferList.drop host [] 0 0 w = .error e { w with asked } := by
    rintro _ rfl
    simp only [BufferList.drop, bind_apply, ask_apply, ite_run]
    split
    · rename_i hstale
      exact Or.inr ⟨fun kind => absurd hstale (Nat.not_le_of_lt (kind.stale _)), _, w.asked + 1, rfl⟩
    · exact Or.inl ⟨_, w.asked + 1, rfl, .empty⟩
  cases h with
  | empty =>
    obtain rfl : n = 0 := by simpa using hn
    exact hgone _ rfl
  | chunk item offset inside bound =>
    rw [List.length_drop] at hn
    have hoff : (offset + n) % 2 ^ 32 = offset + n := by omega
    have hleft : (item.drop offset).drop n = item.drop (offset + n) := List.drop_drop
    simp only [BufferList.advance, BufferList.drop, hoff, hleft]
    by_cases hall : offset + n ≥ item.length
    · have htotal : (item.length + 2 ^ 32 - item.length) % 2 ^ 32 = 0 := by omega
      have hzero : offset + n - item.length = 0 := by omega
      rw [if_pos hall, htotal, hzero]
      exact hgone _ (List.drop_eq_nil_of_le hall)
    · rw [if_neg hall]
      exact Or.inl ⟨_, w.asked, rfl, .chunk item (offset + n) (by omega) bound⟩

/-! ## The decoder -/

/-- The field the decoder is waiting for, and a frame without payload that it has not
handed on yet. -/
def Ws.pending (s : Ws) : Stage × List Received :=
  match s.wsState with
  | .waitingFor16BitLength => (.length16 s.frame.mask s.frame.opcode, [])
  | .waitingFor64BitLength => (.length64 s.frame.mask s.frame.opcode, [])
  | .waitingForMaskKey => Stage.afterLength s.frame.mask s.frame.opcode s.frame.length
  | .waitingForPayload =>
    Stage.body s.frame.opcode s.frame.length
      (if s.frame.mask then some s.frame.maskBytes else none)
  | _ => (.header, [])

/-- The decoder states. -/
def WscState.Decodes : WscState → Prop
  | .doHeader => False
  | .waitHttp => False
  | .dead => False
  | _ => True

/-- What `sendText` writes, if there is a text. -/
def wire (str : Bytes) : List Bytes :=
  if str.length = 0 then []
  else if str.length < 126 then [[0x81, UInt8.ofNat str.length], str]
  else if str.length < 65536 then [[0x81, 126] ++ Bytes.bytes16 str.length, str]
  else []

/-- These frames were handed on: the gate has seen the texts among them, and behind what was
written before, `pre`, are the replies. -/
structure Handed (host : Host) (token : Bytes) (pre : List Bytes) (frames : List Received)
    (c : Connection Ws) : Prop where
  gated : Gated token (textsOf frames) c
  framed : c.inner.framed = frames
  closed : c.inner.closed = frames.any (·.opcode = 8)
  replied : ∃ answers, Answered host c.messages answers ∧
    c.written = pre ++ (repliesTo token (textsOf frames) answers).flatMap wire

/-- Nothing of it has changed. -/
theorem Handed.congr {host : Host} {token : Bytes} {pre : List Bytes} {frames : List Received}
    {c c' : Connection Ws} (h : Handed host token pre frames c) (hauthed : c'.authed = c.authed)
    (hmessages : c'.messages = c.messages) (hframed : c'.inner.framed = c.inner.framed)
    (hclosed : c'.inner.closed = c.inner.closed) (hwritten : c'.written = c.written) :
    Handed host token pre frames c' where
  gated := ⟨hauthed.trans h.gated.authed, hmessages.trans h.gated.messages⟩
  framed := hframed.trans h.framed
  closed := hclosed.trans h.closed
  replied := by
    obtain ⟨answers, hanswers, hreplies⟩ := h.replied
    exact ⟨answers, hmessages ▸ hanswers, hwritten.trans hreplies⟩

/-- Inside one chunk, which began at `stage₀` behind the frames `before`: the bytes
taken off it lead to what the decoder waits for, and the frames handed on are those
of the stream. -/
structure Decoding (host : Host) (token : Bytes) (pre : List Bytes) (before : List Received)
    (stage₀ : Stage) (chunk consumed avail : Bytes) (done : List Received) (c : Connection Ws) :
    Prop where
  split : chunk = consumed ++ avail
  holds : Holds c.inner.bl avail
  state : c.inner.wsState.Decodes
  reads : Stream.run Stage.step (stage₀, []) consumed =
    ((c.inner.pending.1, []), done ++ c.inner.pending.2)
  handed : Handed host token pre (before ++ done) c

/-- What is left when the process ends inside a chunk: some of its frames were handed on. -/
def Stopped (token : Bytes) (before : List Received) (stage₀ : Stage) (chunk : Bytes)
    (c : Connection Ws) : Prop :=
  ∃ done, done <+: (Stream.run Stage.step (stage₀, []) chunk).2 ∧
    Gated token (textsOf (before ++ done)) c

variable {host : Host} {token : Bytes} {pre : List Bytes} {before : List Received}
  {stage₀ : Stage} {chunk consumed avail : Bytes} {done : List Received} {w : World Ws}

theorem Decoding.stopped (h : Decoding host token pre before stage₀ chunk consumed avail done w.conn)
    {c' : Connection Ws} (hauthed : c'.authed = w.conn.authed)
    (hmessages : c'.messages = w.conn.messages) : Stopped token before stage₀ chunk c' := by
  refine ⟨done, ?_, hauthed.trans h.handed.gated.authed, hmessages.trans h.handed.gated.messages⟩
  rw [h.split, run_append, h.reads]
  exact (List.prefix_append _ _).trans (List.prefix_append _ _)

/-- One field further in the stream. -/
theorem Decoding.reads_field (h : Decoding host token pre before stage₀ chunk consumed avail done w.conn)
    (stage : Stage) (hpending : w.conn.inner.pending = (stage, [])) (hpos : 0 < stage.want)
    (hlen : stage.want ≤ avail.length) :
    Stream.run Stage.step (stage₀, []) (consumed ++ avail.take stage.want) =
      (((stage.next (avail.take stage.want)).1, []),
        done ++ (stage.next (avail.take stage.want)).2) := by
  have htake : (avail.take stage.want).length = stage.want := by
    rw [List.length_take]
    omega
  have hwhole := run_fieldStep_whole Stage.want Stage.next htake hpos
  have hreads := h.reads
  rw [hpending, List.append_nil] at hreads
  rw [run_append, hreads, hwhole]

/-- The decoder has taken a whole field, and waits for the next. -/
theorem Decoding.field (h : Decoding host token pre before stage₀ chunk consumed avail done w.conn)
    (stage : Stage) (hpending : w.conn.inner.pending = (stage, [])) (hpos : 0 < stage.want)
    (hlen : stage.want ≤ avail.length) {c' : Connection Ws}
    (hholds : Holds c'.inner.bl (avail.drop stage.want)) (hstate : c'.inner.wsState.Decodes)
    (hnext : stage.next (avail.take stage.want) = c'.inner.pending)
    (hauthed : c'.authed = w.conn.authed) (hmessages : c'.messages = w.conn.messages)
    (hframed : c'.inner.framed = w.conn.inner.framed)
    (hclosed : c'.inner.closed = w.conn.inner.closed) (hwritten : c'.written = w.conn.written) :
    Decoding host token pre before stage₀ chunk (consumed ++ avail.take stage.want)
      (avail.drop stage.want) done c' where
  split := by rw [List.append_assoc, List.take_append_drop, h.split]
  holds := hholds
  state := hstate
  reads := by rw [h.reads_field stage hpending hpos hlen, hnext]
  handed := h.handed.congr hauthed hmessages hframed hclosed hwritten

/-- Nothing more can be taken. -/
def Stuck (s : Ws) (avail : Bytes) : Prop :=
  s.pending.2 = [] ∧ avail.length < s.pending.1.want

theorem Decoding.stuck (h : Decoding host token pre before stage₀ chunk consumed avail done w.conn)
    (hstuck : Stuck w.conn.inner avail) :
    Stream.run Stage.step (stage₀, []) chunk = ((w.conn.inner.pending.1, avail), done) := by
  have hshort : Stream.run Stage.step (w.conn.inner.pending.1, []) avail =
      ((w.conn.inner.pending.1, [] ++ avail), []) :=
    run_fieldStep_short Stage.want Stage.next (by simpa using hstuck.2)
  rw [h.split, run_append, h.reads, hshort, hstuck.1]
  simp

/-- An execution inside a chunk: it goes on with `Q`, or the process ends there. -/
def Goes {α : Type} (host : Host) (token : Bytes) (pre : List Bytes) (before : List Received)
    (stage₀ : Stage) (chunk : Bytes) (r : EStateM.Result Fault (World Ws) α)
    (Q : α → Bytes → Ws → Prop) : Prop :=
  match r with
  | .ok a w' => ∃ consumed avail done,
      Decoding host token pre before stage₀ chunk consumed avail done w'.conn ∧ Q a avail w'.conn.inner
  | .error _ w' => ¬ host.Kind ∧ Stopped token before stage₀ chunk w'.conn

theorem Goes.bind {α β : Type} {x : RpcM Ws α} {f : α → RpcM Ws β} {Q : α → Bytes → Ws → Prop}
    {Q' : β → Bytes → Ws → Prop} (hx : Goes host token pre before stage₀ chunk (x w) Q)
    (hf : ∀ a w' consumed avail done,
      Decoding host token pre before stage₀ chunk consumed avail done w'.conn → Q a avail w'.conn.inner →
        Goes host token pre before stage₀ chunk (f a w') Q') :
    Goes host token pre before stage₀ chunk ((x >>= f) w) Q' := by
  rw [bind_apply]
  cases hrun : x w with
  | ok a w' =>
    rw [hrun] at hx
    obtain ⟨consumed, avail, done, hdec, hQ⟩ := hx
    exact hf a w' consumed avail done hdec hQ
  | error e w' =>
    rw [hrun] at hx
    exact hx

theorem Goes.mono {α : Type} {r : EStateM.Result Fault (World Ws) α}
    {Q Q' : α → Bytes → Ws → Prop} (h : Goes host token pre before stage₀ chunk r Q)
    (himp : ∀ a avail s, Q a avail s → Q' a avail s) : Goes host token pre before stage₀ chunk r Q' := by
  cases r with
  | ok a w' =>
    obtain ⟨consumed, avail, done, hdec, hQ⟩ := h
    exact ⟨consumed, avail, done, hdec, himp _ _ _ hQ⟩
  | error e w' => exact h

/-- The bytes of a field are taken off the buffer list. -/
theorem advance_holds (host : Host) {avail : Bytes} {n : Nat}
    (hholds : Holds w.conn.inner.bl avail) (hn : n ≤ avail.length) :
    (∃ bl asked, advance host n w =
        .ok () { conn := { w.conn with inner := { w.conn.inner with bl } }, asked } ∧
      Holds bl (avail.drop n)) ∨
    ¬ host.Kind ∧ ∃ e asked, advance host n w = .error e { w with asked } := by
  rcases hholds.advance host hn w with ⟨bl, asked, hrun, hleft⟩ | ⟨hunkind, e, asked, hrun⟩
  · refine Or.inl ⟨bl, asked, ?_, hleft⟩
    rw [advance, bind_ok (getConn_apply w), bind_ok hrun, modifyInner_apply]
  · refine Or.inr ⟨hunkind, e, asked, ?_⟩
    rw [advance, bind_ok (getConn_apply w), bind_error hrun]

/-- Take the bytes of a field off the buffer list, in front of whatever follows. -/
theorem advance_goes (host : Host) (avail : Bytes) (n : Nat)
    (hholds : Holds w.conn.inner.bl avail) (hn : n ≤ avail.length) {α : Type} {f : RpcM Ws α} {Q : α → Bytes → Ws → Prop}
    (hstop : ∀ asked, Stopped token before stage₀ chunk { w with asked }.conn)
    (hf : ∀ bl asked, Holds bl (avail.drop n) → Goes host token pre before stage₀ chunk
      (f { conn := { w.conn with inner := { w.conn.inner with bl } }, asked }) Q) :
    Goes host token pre before stage₀ chunk ((advance host n >>= fun _ => f) w) Q := by
  rcases advance_holds host hholds hn with ⟨bl, asked, hrun, hleft⟩ | ⟨hunkind, e, asked, hrun⟩
  · rw [bind_ok hrun]
    exact hf bl asked hleft
  · rw [bind_error hrun]
    exact ⟨hunkind, hstop asked⟩

theorem makeData_goes (host : Host) (length : Nat) {α : Type} {f : RpcM Ws α}
    {Q : α → Bytes → Ws → Prop} (hstop : Stopped token before stage₀ chunk w.conn)
    (hf : Goes host token pre before stage₀ chunk (f w) Q) :
    Goes host token pre before stage₀ chunk ((makeData host length >>= fun _ => f) w) Q := by
  unfold makeData
  split
  · exact hf
  · rename_i hnone
    exact ⟨fun kind => hnone (kind.allocates length), hstop⟩

/-! ### The fields one by one -/

/-- The state the first two bytes lead to. -/
def announced (frame : WsFrame) : WscState :=
  if frame.length = 126 then .waitingFor16BitLength
  else if frame.length = 127 then .waitingFor64BitLength
  else .waitingForMaskKey

theorem beginFrame_goes (host : Host) (frame : WsFrame) {α : Type} {f : RpcM Ws α}
    {Q : α → Bytes → Ws → Prop} (hstop : Stopped token before stage₀ chunk w.conn)
    (hf : Goes host token pre before stage₀ chunk (f { w with conn := { w.conn with
      inner := { w.conn.inner with frame, wsState := announced frame } } }) Q) :
    Goes host token pre before stage₀ chunk ((beginFrame host frame >>= fun _ => f) w) Q := by
  unfold announced at hf
  unfold beginFrame
  split
  · rename_i h126
    rw [if_pos h126] at hf
    exact hf
  · rename_i h126
    rw [if_neg h126] at hf
    split
    · rename_i h127
      rw [if_pos h127] at hf
      exact hf
    · rename_i h127
      rw [if_neg h127] at hf
      rw [bind_assoc]
      exact makeData_goes host _ hstop hf

theorem pending_announced (s : Ws) (first second : UInt8) :
    { s with frame := frameOf first second, wsState := announced (frameOf first second) }.pending =
      Stage.next .header [first, second] := by
  have hlen : (frameOf first second).length = (second &&& 0x7f).toNat := rfl
  simp only [Ws.pending, announced, hlen, Stage.next, Bytes.byte, List.getD_cons_succ,
    List.getD_cons_zero]
  split_ifs <;> rfl

theorem decodeHeader_goes (host : Host)
    (h : Decoding host token pre before stage₀ chunk consumed avail done w.conn) :
    Goes host token pre before stage₀ chunk (decodeHeader host w) fun broke avail' s =>
      avail'.length ≤ avail.length ∧
      (broke = true → s.wsState = .waitDecodeHeader ∧ avail'.length < 2) ∧
      (broke = false → s.wsState ≠ .waitDecodeHeader ∧
        (w.conn.inner.wsState = .waitDecodeHeader → avail'.length < avail.length)) := by
  unfold decodeHeader
  rw [bind_ok (getConn_apply w), ite_run]
  by_cases hstate : w.conn.inner.wsState = .waitDecodeHeader
  swap
  · rw [if_pos hstate]
    exact ⟨consumed, avail, done, h, Nat.le_refl _, by simp,
      fun _ => ⟨hstate, fun h => absurd h hstate⟩⟩
  rw [if_neg (by simpa using hstate), ite_run, h.holds.size]
  by_cases hshort : avail.length < 2
  · rw [if_pos hshort]
    exact ⟨consumed, avail, done, h, Nat.le_refl _, fun _ => ⟨hstate, hshort⟩, by simp⟩
  rw [if_neg hshort, h.holds.get host (by omega), pure_bind, h.holds.get host (by omega), pure_bind]
  have hpend : w.conn.inner.pending = (.header, []) := by simp [Ws.pending, hstate]
  have htake : avail.take 2 = [avail.byte 0, avail.byte 1] := by
    match avail, hshort with
    | [], hshort => simp at hshort
    | [_], hshort => simp at hshort
    | a :: b :: rest, _ => rfl
  refine beginFrame_goes host _ (h.stopped rfl rfl) ?_
  refine advance_goes host avail 2 ?_ (by omega) (fun asked => h.stopped rfl rfl) ?_
  · exact h.holds
  intro bl asked hleft
  have hnot : announced (frameOf (avail.byte 0) (avail.byte 1)) ≠ .waitDecodeHeader := by
    unfold announced
    split_ifs <;> simp
  have hdec : WscState.Decodes (announced (frameOf (avail.byte 0) (avail.byte 1))) := by
    unfold announced
    split_ifs <;> trivial
  refine ⟨_, _, _, h.field .header hpend (by decide) (by show 2 ≤ _; omega) hleft hdec ?_ rfl rfl rfl rfl rfl,
    ?_⟩
  · rw [show Stage.want .header = 2 from rfl, htake]
    exact (pending_announced { w.conn.inner with bl } _ _).symm
  · have hless : (avail.drop 2).length < avail.length := by
      rw [List.length_drop]
      omega
    exact ⟨Nat.le_of_lt hless, by simp, fun _ => ⟨hnot, fun _ => hless⟩⟩

theorem decode16BitLength_goes (host : Host)
    (h : Decoding host token pre before stage₀ chunk consumed avail done w.conn)
    (hnot : w.conn.inner.wsState ≠ .waitDecodeHeader) :
    Goes host token pre before stage₀ chunk (decode16BitLength host w) fun _ avail' s =>
      avail'.length ≤ avail.length ∧ s.wsState ≠ .waitDecodeHeader ∧
      (s.wsState = .waitingFor16BitLength → avail'.length < 2) := by
  unfold decode16BitLength
  rw [bind_ok (getConn_apply w), ite_run, h.holds.size]
  by_cases hactive : w.conn.inner.wsState = .waitingFor16BitLength ∧ avail.length ≥ 2
  swap
  · rw [if_neg hactive]
    exact ⟨consumed, avail, done, h, Nat.le_refl _, hnot,
      fun hstate => Nat.lt_of_not_le fun hlen => hactive ⟨hstate, hlen⟩⟩
  obtain ⟨hstate, hlen⟩ := hactive
  rw [if_pos ⟨hstate, hlen⟩, h.holds.get host (by omega), pure_bind, h.holds.get host (by omega),
    pure_bind]
  have hpend : w.conn.inner.pending =
      (.length16 w.conn.inner.frame.mask w.conn.inner.frame.opcode, []) := by
    simp [Ws.pending, hstate]
  refine makeData_goes host _ (h.stopped rfl rfl) ?_
  rw [bind_ok (modifyInner_apply _ w)]
  refine advance_goes host avail 2 ?_ hlen (fun asked => h.stopped rfl rfl) ?_
  · exact h.holds
  intro bl asked hleft
  have hvalue : Bytes.net16 (avail.take 2) 0 =
      (avail.byte 0).toNat * 256 + (avail.byte 1).toNat := by
    simp [Bytes.net16, Bytes.byte]
  refine ⟨_, _, _, h.field _ hpend (by show 0 < 2; omega) hlen hleft trivial ?_ rfl rfl rfl rfl rfl,
    ?_⟩
  · show Stage.afterLength _ _ (Bytes.net16 (avail.take 2) 0) = _
    rw [hvalue]
    rfl
  · refine ⟨?_, by simp, by simp⟩
    show (avail.drop 2).length ≤ _
    rw [List.length_drop]
    omega

def Stage.isLong : Stage → Bool
  | .length64 _ _ => true
  | _ => false

/-- No frame of the chunk announces its length in 64 bits. -/
def NoLong (stage₀ : Stage) (chunk : Bytes) : Prop :=
  ∀ n < chunk.length + 1, (Stream.run Stage.step (stage₀, []) (chunk.take n)).1.1.isLong = false

theorem Decoding.not_long (h : Decoding host token pre before stage₀ chunk consumed avail done w.conn)
    (hlong : NoLong stage₀ chunk) : w.conn.inner.wsState ≠ .waitingFor64BitLength := by
  intro hstate
  have hpend : w.conn.inner.pending =
      (.length64 w.conn.inner.frame.mask w.conn.inner.frame.opcode, []) := by
    simp [Ws.pending, hstate]
  have hlen : consumed.length < chunk.length + 1 := by
    rw [h.split, List.length_append]
    omega
  have hshort := hlong consumed.length hlen
  rw [h.split, List.take_left, h.reads, hpend] at hshort
  cases hshort

theorem decodeMaskKey_goes (host : Host)
    (h : Decoding host token pre before stage₀ chunk consumed avail done w.conn)
    (hnot : w.conn.inner.wsState ≠ .waitDecodeHeader)
    (hword : w.conn.inner.wsState = .waitingFor16BitLength → avail.length < 2) :
    Goes host token pre before stage₀ chunk (decodeMaskKey host w) fun _ avail' s =>
      avail'.length ≤ avail.length ∧ s.wsState ≠ .waitDecodeHeader ∧
      (s.wsState = .waitingFor16BitLength → avail'.length < 2) ∧
      (s.wsState = .waitingForMaskKey → s.frame.mask = true ∧ avail'.length < 4) := by
  unfold decodeMaskKey
  rw [bind_ok (getConn_apply w), ite_run]
  by_cases hstate : w.conn.inner.wsState = .waitingForMaskKey
  swap
  · rw [if_neg hstate]
    exact ⟨consumed, avail, done, h, Nat.le_refl _, hnot, hword, fun h => absurd h hstate⟩
  rw [if_pos hstate, ite_run]
  cases hmask : w.conn.inner.frame.mask with
  | false =>
    -- nothing to read: the payload is next
    have hsame : { w.conn.inner with wsState := .waitingForPayload }.pending =
        w.conn.inner.pending := by
      simp [Ws.pending, hstate, hmask, Stage.afterLength]
    have hreads := h.reads
    rw [← hsame] at hreads
    rw [if_neg (by simp)]
    exact ⟨consumed, avail, done,
      ⟨h.split, h.holds, trivial, hreads, h.handed.congr rfl rfl rfl rfl rfl⟩,
      Nat.le_refl _, by simp, by simp, by simp⟩
  | true =>
    have hpend : w.conn.inner.pending =
        (.maskKey w.conn.inner.frame.opcode w.conn.inner.frame.length, []) := by
      simp [Ws.pending, hstate, hmask, Stage.afterLength]
    rw [if_pos rfl, ite_run, h.holds.size]
    by_cases hlen : avail.length ≥ 4
    swap
    · rw [if_neg hlen]
      exact ⟨consumed, avail, done, h, Nat.le_refl _, hnot, hword,
        fun _ => ⟨hmask, Nat.lt_of_not_le hlen⟩⟩
    rw [if_pos hlen, h.holds.copyTo host (by omega), pure_bind, List.drop_zero,
      bind_ok (modifyInner_apply _ w)]
    refine advance_goes host avail 4 ?_ hlen (fun asked => h.stopped rfl rfl) ?_
    · exact h.holds
    intro bl asked hleft
    refine ⟨_, _, _, h.field _ hpend (by show 0 < 4; omega) hlen hleft trivial ?_ rfl rfl rfl rfl
      rfl, ?_⟩
    · show Stage.body _ _ (some (avail.take 4)) = _
      simp [Ws.pending, hmask]
    · refine ⟨?_, by simp, by simp, by simp⟩
      show (avail.drop 4).length ≤ _
      rw [List.length_drop]
      omega

theorem sendText_wire (result : Bytes) (w : World Ws) :
    (if result.length > 0 then sendText result else pure ()) w =
      .ok () { w with conn := { w.conn with written := w.conn.written ++ wire result } } := by
  unfold wire sendText
  by_cases hsome : result.length > 0
  · have hne : result.length ≠ 0 := by omega
    rw [if_pos hsome, if_neg hne, ite_run, ite_run]
    split_ifs
    · rfl
    · rfl
    · rw [List.append_nil]
      rfl
  · have hzero : result.length = 0 := by omega
    rw [if_neg hsome, if_pos hzero, List.append_nil]
    rfl

theorem textsOf_text (frames : List Received) (data : Bytes) :
    textsOf (frames ++ [⟨1, data⟩]) = textsOf frames ++ [data] := by
  simp [textsOf]

theorem textsOf_other (frames : List Received) {frame : Received} (h : frame.opcode ≠ 1) :
    textsOf (frames ++ [frame]) = textsOf frames := by
  simp [textsOf, h]

/-- A frame that is no text is handed on, and that is all. -/
theorem Handed.other {frames : List Received} {frame : Received} {c c' : Connection Ws}
    (h : Handed host token pre frames c) (hother : frame.opcode ≠ 1)
    (hauthed : c'.authed = c.authed) (hmessages : c'.messages = c.messages)
    (hframed : c'.inner.framed = c.inner.framed ++ [frame])
    (hclosed : c'.inner.closed = (c.inner.closed || frame.opcode = 8))
    (hwritten : c'.written = c.written) : Handed host token pre (frames ++ [frame]) c' := by
  have hsame := textsOf_other frames hother
  obtain ⟨answers, hanswers, hreplies⟩ := h.replied
  refine ⟨?_, ?_, ?_, answers, hmessages ▸ hanswers, ?_⟩
  · rw [hsame]
    exact ⟨hauthed.trans h.gated.authed, hmessages.trans h.gated.messages⟩
  · rw [hframed, h.framed]
  · rw [hclosed, h.closed, List.any_append]
    simp
  · rw [hsame]
    exact hwritten.trans hreplies

/-- A text frame that is handed on goes to the gate, and its reply is written. -/
theorem authorise_replied (host : Host) {frames : List Received} (data : Bytes)
    (hgated : Gated token (textsOf frames) w.conn)
    (hreplied : ∃ answers, Answered host w.conn.messages answers ∧
      w.conn.written = pre ++ (repliesTo token (textsOf frames) answers).flatMap wire) :
    ∃ result w', authorise host token data w = .ok result w' ∧
      Gated token (textsOf (frames ++ [⟨1, data⟩])) w'.conn ∧ w'.conn.inner = w.conn.inner ∧
      ∃ answers, Answered host w'.conn.messages answers ∧
        w'.conn.written ++ wire result =
          pre ++ (repliesTo token (textsOf (frames ++ [⟨1, data⟩])) answers).flatMap wire := by
  obtain ⟨result, w', hrun, hgated', hinner, hwritten, hanswer, hverdict⟩ :=
    authorise_gated host hgated data
  obtain ⟨answers, hanswers, hreplies⟩ := hreplied
  rw [textsOf_text]
  refine ⟨result, w', hrun, hgated', hinner, ?_⟩
  by_cases hmem : token ∈ textsOf frames
  · obtain ⟨n, hresult⟩ := hanswer hmem
    refine ⟨answers ++ [result], ?_, ?_⟩
    · rw [hgated'.messages, gate_append hmem, ← hgated.messages]
      exact List.rel_append hanswers (.cons ⟨n, hresult⟩ .nil)
    · rw [repliesTo_answer hmem, List.flatMap_append, ← List.append_assoc, ← hreplies, hwritten]
      simp
  · -- nothing has been passed on so far
    have hnone : answers = [] := by
      rw [Answered, hgated.messages, gate_of_notMem hmem, List.forall₂_nil_left_iff] at hanswers
      exact hanswers
    subst hnone
    refine ⟨[], ?_, ?_⟩
    · have hmessages : w'.conn.messages = [] := by
        rw [hgated'.messages]
        exact gate_snoc hmem data
      rw [hmessages]
      exact .nil
    · rw [repliesTo_verdict hmem, List.flatMap_append, ← List.append_assoc, ← hreplies, hwritten,
        hverdict hmem]
      simp

/-- A frame is handed on: a text frame goes to the gate, others do not reach it. -/
theorem onFrame_handed (host : Host) (frames : List Received)
    (h : Handed host token pre frames w.conn) :
    ∃ w', onFrame host token w = .ok () w' ∧
      Handed host token pre (frames ++ [⟨w.conn.inner.frame.opcode, w.conn.inner.frame.data⟩])
        w'.conn ∧
      w'.conn.inner.bl = w.conn.inner.bl ∧ w'.conn.inner.wsState = w.conn.inner.wsState := by
  have hframed : w.conn.inner.framed ++ [⟨w.conn.inner.frame.opcode, w.conn.inner.frame.data⟩] =
      frames ++ [⟨w.conn.inner.frame.opcode, w.conn.inner.frame.data⟩] := by
    rw [h.framed]
  unfold onFrame
  rw [bind_ok (getConn_apply w), bind_ok (modifyInner_apply _ w), ite_run, ite_run]
  by_cases hclose : w.conn.inner.frame.opcode = 8
  · rw [if_pos hclose]
    have hother : (8 : UInt8) ≠ 1 := by decide
    exact ⟨_, rfl, h.other (by rwa [hclose]) rfl rfl rfl (by simp [hclose]) rfl, rfl, rfl⟩
  rw [if_neg hclose]
  by_cases htext : w.conn.inner.frame.opcode = 1
  swap
  · rw [if_pos htext]
    exact ⟨_, rfl, h.other htext rfl rfl rfl (by simp [hclose]) rfl, rfl, rfl⟩
  rw [if_neg (by simpa using htext), bind_ok (modifyInner_apply _ _)]
  rw [htext] at hframed ⊢
  obtain ⟨result, w₁, hrun, hgated, hinner, hreplied⟩ := authorise_replied host
    (w := { w with conn := { w.conn with inner := { w.conn.inner with
      framed := w.conn.inner.framed ++ [⟨1, w.conn.inner.frame.data⟩]
      frame := { w.conn.inner.frame with data := [] } } } })
    w.conn.inner.frame.data ⟨h.gated.authed, h.gated.messages⟩ h.replied
  have hinner' : w₁.conn.inner.framed = frames ++ [⟨1, w.conn.inner.frame.data⟩] := by
    rw [hinner]
    exact hframed
  have hopen : w₁.conn.inner.closed =
      (frames ++ [(⟨1, w.conn.inner.frame.data⟩ : Received)]).any (·.opcode = 8) := by
    rw [hinner, List.any_append]
    simpa using h.closed
  have hbl : w₁.conn.inner.bl = w.conn.inner.bl := by rw [hinner]
  have hstate : w₁.conn.inner.wsState = w.conn.inner.wsState := by rw [hinner]
  exact ⟨_, (bind_ok hrun).trans (sendText_wire result w₁),
    ⟨⟨hgated.authed, hgated.messages⟩, hinner', hopen, hreplied⟩, hbl, hstate⟩

theorem onFrame_goes (host : Host) (consumed : Bytes) (hsplit : chunk = consumed ++ avail)
    (hholds : Holds w.conn.inner.bl avail) (hheader : w.conn.inner.wsState = .waitDecodeHeader)
    (hreads : Stream.run Stage.step (stage₀, []) consumed =
      ((.header, []), done ++ [⟨w.conn.inner.frame.opcode, w.conn.inner.frame.data⟩]))
    (hhanded : Handed host token pre (before ++ done) w.conn) :
    Goes host token pre before stage₀ chunk (onFrame host token w) fun _ avail' s =>
      avail' = avail ∧ s.wsState = .waitDecodeHeader := by
  obtain ⟨w', hrun, hhanded', hbl, hstate⟩ := onFrame_handed host _ hhanded
  rw [hrun]
  have hstart : w'.conn.inner.wsState = .waitDecodeHeader := hstate.trans hheader
  have hpend : w'.conn.inner.pending = (.header, []) := by simp [Ws.pending, hstart]
  refine ⟨consumed, avail, done ++ [⟨w.conn.inner.frame.opcode, w.conn.inner.frame.data⟩],
    ⟨hsplit, ?_, ?_, ?_, ?_⟩, rfl, hstart⟩
  · rw [hbl]
    exact hholds
  · rw [hstart]
    trivial
  · rw [hpend, List.append_nil]
    exact hreads
  · rw [← List.append_assoc]
    exact hhanded'

theorem decodePayload_goes (host : Host)
    (h : Decoding host token pre before stage₀ chunk consumed avail done w.conn)
    (hnot : w.conn.inner.wsState ≠ .waitDecodeHeader)
    (hword : w.conn.inner.wsState = .waitingFor16BitLength → avail.length < 2)
    (hlong : w.conn.inner.wsState ≠ .waitingFor64BitLength)
    (hkey : w.conn.inner.wsState = .waitingForMaskKey →
      w.conn.inner.frame.mask = true ∧ avail.length < 4) :
    Goes host token pre before stage₀ chunk (decodePayload host token w) fun _ avail' s =>
      avail'.length ≤ avail.length ∧ (s.wsState ≠ .waitDecodeHeader → Stuck s avail') := by
  unfold decodePayload
  rw [bind_ok (getConn_apply w), ite_run, h.holds.size]
  by_cases hactive : w.conn.inner.wsState = .waitingForPayload ∧
      avail.length ≥ w.conn.inner.frame.length
  swap
  · rw [if_neg hactive]
    refine ⟨consumed, avail, done, h, Nat.le_refl _, fun _ => ?_⟩
    have hdecodes := h.state
    unfold Stuck Ws.pending
    cases hstate : w.conn.inner.wsState with
    | doHeader | waitHttp | dead => rw [hstate] at hdecodes; exact hdecodes.elim
    | waitDecodeHeader => exact absurd hstate hnot
    | waitingFor16BitLength => exact ⟨rfl, hword hstate⟩
    | waitingFor64BitLength => exact absurd hstate hlong
    | waitingForMaskKey =>
      obtain ⟨hmask, hlen⟩ := hkey hstate
      simpa [Stage.afterLength, Stage.want, hmask] using hlen
    | waitingForPayload =>
      have hlen : avail.length < w.conn.inner.frame.length :=
        Nat.lt_of_not_le fun hle => hactive ⟨hstate, hle⟩
      have hsome : ¬ w.conn.inner.frame.length = 0 := by omega
      simpa [Stage.body, Stage.want, hsome] using hlen
  obtain ⟨hstate, hlen⟩ := hactive
  rw [if_pos ⟨hstate, hlen⟩, h.holds.copyTo host (by omega), pure_bind, List.drop_zero]
  refine advance_goes host avail w.conn.inner.frame.length h.holds hlen
    (fun asked => h.stopped rfl rfl) fun bl asked hleft => ?_
  rw [bind_ok (modifyInner_apply _ _)]
  have hless : (avail.drop w.conn.inner.frame.length).length ≤ avail.length := by
    rw [List.length_drop]
    omega
  refine Goes.mono ?_ fun _ avail' s (hend : avail' = _ ∧ s.wsState = .waitDecodeHeader) =>
    ⟨hend.1 ▸ hless, fun hne => absurd hend.2 hne⟩
  by_cases hzero : w.conn.inner.frame.length = 0
  · -- the stream had this frame already when its length was known
    have hpend : w.conn.inner.pending = (.header, [⟨w.conn.inner.frame.opcode, []⟩]) := by
      simp [Ws.pending, hstate, Stage.body, hzero]
    have hreads := h.reads
    rw [hpend] at hreads
    refine onFrame_goes host consumed ?_ hleft rfl ?_
      (h.handed.congr rfl rfl rfl rfl rfl)
    · rw [hzero, List.drop_zero]
      exact h.split
    · simpa [hzero, unmask] using hreads
  · have hpend : w.conn.inner.pending = (.payload w.conn.inner.frame.opcode
        w.conn.inner.frame.length
        (if w.conn.inner.frame.mask then some w.conn.inner.frame.maskBytes else none), []) := by
      simp [Ws.pending, hstate, Stage.body, hzero]
    have hreads := h.reads_field _ hpend (Nat.pos_of_ne_zero hzero) hlen
    refine onFrame_goes host (consumed ++ avail.take w.conn.inner.frame.length) ?_ hleft rfl ?_
      (h.handed.congr rfl rfl rfl rfl rfl)
    · rw [List.append_assoc, List.take_append_drop]
      exact h.split
    · refine hreads.trans ?_
      cases hmask : w.conn.inner.frame.mask <;> simp [Stage.next, Stage.want]

theorem decodeRound_goes (host : Host) (hlong : NoLong stage₀ chunk)
    (h : Decoding host token pre before stage₀ chunk consumed avail done w.conn) :
    Goes host token pre before stage₀ chunk (decodeRound host token w) fun broke avail' s =>
      avail'.length ≤ avail.length ∧
      (broke = true ∨ s.wsState ≠ .waitDecodeHeader → Stuck s avail') ∧
      (w.conn.inner.wsState = .waitDecodeHeader → broke = false →
        avail'.length < avail.length) := by
  unfold decodeRound
  refine (decodeHeader_goes host h).bind fun broke w₁ consumed₁ avail₁ done₁ h₁ hpost => ?_
  obtain ⟨hle₁, hbroke, hgoes⟩ := hpost
  cases broke with
  | true =>
    obtain ⟨hstate, hshort⟩ := hbroke rfl
    refine ⟨consumed₁, avail₁, done₁, h₁, hle₁, fun _ => ?_, fun _ hfalse => by cases hfalse⟩
    have hpend : w₁.conn.inner.pending = (.header, []) := by simp [Ws.pending, hstate]
    rw [Stuck, hpend]
    exact ⟨rfl, hshort⟩
  | false =>
    obtain ⟨hnot₁, hstrict⟩ := hgoes rfl
    refine (decode16BitLength_goes host h₁ hnot₁).bind ?_
    rintro _ w₂ consumed₂ avail₂ done₂ h₂ ⟨hle₂, hnot₂, hword₂⟩
    -- the long length is never waited for
    have hskip : decode64BitLength host w₂ = .ok () w₂ := by
      rw [decode64BitLength, bind_ok (getConn_apply w₂),
        if_neg fun hactive => h₂.not_long hlong hactive.1]
      rfl
    rw [bind_ok hskip]
    refine (decodeMaskKey_goes host h₂ hnot₂ hword₂).bind ?_
    rintro _ w₃ consumed₃ avail₃ done₃ h₃ ⟨hle₃, hnot₃, hword₃, hkey₃⟩
    refine (decodePayload_goes host h₃ hnot₃ hword₃ (h₃.not_long hlong) hkey₃).bind ?_
    rintro _ w₄ consumed₄ avail₄ done₄ h₄ ⟨hle₄, hstuck⟩
    refine ⟨consumed₄, avail₄, done₄, h₄, by omega, ?_, fun hstate _ => ?_⟩
    · rintro (hfalse | hne)
      · cases hfalse
      · exact hstuck hne
    · have := hstrict hstate
      omega

/-- The loop takes all whole fields of the chunk. -/
theorem decodeLoop_goes (host : Host) (hlong : NoLong stage₀ chunk) (fuel : Nat)
    (h : Decoding host token pre before stage₀ chunk consumed avail done w.conn)
    (hfuel : avail.length + (if w.conn.inner.wsState = .waitDecodeHeader then 0 else 1) < fuel) :
    Goes host token pre before stage₀ chunk (decodeLoop host token fuel w) fun _ avail' s =>
      Stuck s avail' := by
  induction fuel generalizing w consumed avail done with
  | zero => omega
  | succ fuel ih =>
    unfold decodeLoop
    refine (decodeRound_goes host hlong h).bind ?_
    rintro broke w₁ consumed₁ avail₁ done₁ h₁ ⟨hle, hstuck, hstrict⟩
    rw [bind_ok (getConn_apply w₁), ite_run]
    by_cases hagain : (!broke) = true ∧ w₁.conn.inner.wsState = .waitDecodeHeader
    · rw [if_pos hagain]
      obtain ⟨hbroke, hstate⟩ := hagain
      refine ih h₁ ?_
      rw [if_pos hstate]
      split at hfuel
      · have := hstrict ‹_› (by simpa using hbroke)
        omega
      · omega
    · rw [if_neg hagain]
      refine ⟨consumed₁, avail₁, done₁, h₁, hstuck ?_⟩
      by_cases hbroke : broke = true
      · exact Or.inl hbroke
      · exact Or.inr fun hstate => hagain ⟨by simpa using hbroke, hstate⟩

/-! ## Whole chunks -/

/-- A connection in the frames of its stream: it waits for `stage` and holds `got` of it. -/
structure InFrames (host : Host) (token : Bytes) (pre : List Bytes) (frames : List Received)
    (stage : Stage) (got : Bytes) (c : Connection Ws) : Prop where
  holds : Holds c.inner.bl got
  state : c.inner.wsState.Decodes
  pending : c.inner.pending = (stage, [])
  short : got.length < stage.want
  handed : Handed host token pre frames c

/-- The loop over the bytes in the buffer list, when they start with a field. -/
theorem decodeLoop_frames (host : Host) {frames : List Received} {stage : Stage} {bytes : Bytes}
    (hholds : Holds w.conn.inner.bl bytes) (hstate : w.conn.inner.wsState.Decodes)
    (hpending : w.conn.inner.pending = (stage, [])) (hhanded : Handed host token pre frames w.conn)
    (hlong : NoLong stage bytes) {fuel : Nat} (hfuel : bytes.length + 1 < fuel) :
    match decodeLoop host token fuel w with
    | .ok _ w' => InFrames host token pre (frames ++ (Stream.run Stage.step (stage, []) bytes).2)
        (Stream.run Stage.step (stage, []) bytes).1.1 (Stream.run Stage.step (stage, []) bytes).1.2
        w'.conn
    | .error _ w' => ¬ host.Kind ∧ Stopped token frames stage bytes w'.conn := by
  have hbegin : Decoding host token pre frames stage bytes [] bytes [] w.conn := by
    refine ⟨rfl, hholds, hstate, ?_, ?_⟩
    · rw [hpending]
      rfl
    · rw [List.append_nil]
      exact hhanded
  have hloop := decodeLoop_goes host hlong fuel hbegin (by split <;> omega)
  revert hloop
  cases decodeLoop host token fuel w with
  | ok a w' =>
    rintro ⟨consumed, avail, done, hdec, hstuck⟩
    have hrun := hdec.stuck hstuck
    rw [hrun]
    exact ⟨hdec.holds, hdec.state, Prod.ext rfl hstuck.1, hstuck.2, hdec.handed⟩
  | error e w' => exact fun hstop => hstop

/-- A chunk that starts with a field. -/
theorem wsOnData_frames (host : Host) {frames : List Received} {stage : Stage} (chunk : Chunk)
    (h : InFrames host token pre frames stage [] w.conn) (hlong : NoLong stage chunk.bytes) :
    match wsOnData host token chunk w with
    | .ok _ w' => InFrames host token pre
        (frames ++ (Stream.run Stage.step (stage, []) chunk.bytes).2)
        (Stream.run Stage.step (stage, []) chunk.bytes).1.1
        (Stream.run Stage.step (stage, []) chunk.bytes).1.2
        w'.conn
    | .error _ w' => ¬ host.Kind ∧ Stopped token frames stage chunk.bytes w'.conn := by
  have hstep : wsOnData host token chunk w = decodeLoop host token
      (w.conn.inner.bl.size + chunk.bytes.length + 2) { w with conn := { w.conn with
        inner := { w.conn.inner with bl := w.conn.inner.bl.add chunk.bytes } } } := by
    have hdecodes := h.state
    rw [wsOnData, bind_ok (getConn_apply w)]
    cases hstate : w.conn.inner.wsState with
    | doHeader | waitHttp | dead => rw [hstate] at hdecodes; exact hdecodes.elim
    | waitDecodeHeader | waitingFor16BitLength | waitingFor64BitLength | waitingForMaskKey
    | waitingForPayload => exact bind_ok (modifyInner_apply _ w)
  rw [hstep]
  exact decodeLoop_frames host (w := { w with conn := { w.conn with
      inner := { w.conn.inner with bl := w.conn.inner.bl.add chunk.bytes } } })
    (h.holds.add chunk) h.state h.pending
    (h.handed.congr rfl rfl rfl rfl rfl) hlong
    (by omega : chunk.bytes.length + 1 < w.conn.inner.bl.size + chunk.bytes.length + 2)

/-! ## The request -/

def Ws.head (s : Ws) : Head := ⟨s.wsState, s.path, s.headers⟩

/-- Nothing was handed on. -/
structure Unframed (w w' : World Ws) : Prop where
  authed : w'.conn.authed = w.conn.authed
  messages : w'.conn.messages = w.conn.messages
  framed : w'.conn.inner.framed = w.conn.inner.framed
  closed : w'.conn.inner.closed = w.conn.inner.closed

/-- What is written in answer to a header line. -/
def answerOf (host : Host) : Reply → List Bytes
  | .nothing => []
  | .badRequest => [httpResp400]
  | .switching key => [httpResp101Part ++ host.accept key ++ text "\r\n\r\n"]
  | .file name => if hasDotDot name then [httpResp400] else []

theorem sendStr_some {str : Bytes} (h : str ≠ []) (w : World Ws) :
    sendStr str w =
      .ok () { w with conn := { w.conn with written := w.conn.written ++ [str] } } := by
  rw [sendStr, if_pos (List.length_pos_iff.mpr h)]
  rfl

theorem text_ne_nil {s : String} (h : s ≠ "") : text s ≠ [] := by
  intro hnil
  exact h (String.toList_eq_nil_iff.mp (List.map_eq_nil_iff.mp hnil))

/-- The answer to a header line. -/
theorem replyText_answers (host : Host) (reply : Reply) (w : World Ws) :
    ∃ w', (replyText host reply >>= fun result => sendStr result) w = .ok () w' ∧
      w'.conn.inner.head = w.conn.inner.head ∧ w'.conn.inner.bl = w.conn.inner.bl ∧
      Unframed w w' ∧ w'.conn.written = w.conn.written ++ answerOf host reply := by
  have hbad : httpResp400 ≠ [] := text_ne_nil (by decide)
  have hswitch : ∀ rest, httpResp101Part ++ rest ≠ [] := by
    intro rest hnil
    have hpart : httpResp101Part ≠ [] := text_ne_nil (by decide)
    exact hpart (List.append_eq_nil_iff.mp hnil).1
  cases reply with
  | nothing => exact ⟨w, rfl, rfl, rfl, ⟨rfl, rfl, rfl, rfl⟩, (List.append_nil _).symm⟩
  | badRequest =>
    rw [replyText, pure_bind, sendStr_some hbad w]
    exact ⟨_, rfl, rfl, rfl, ⟨rfl, rfl, rfl, rfl⟩, rfl⟩
  | switching key =>
    have hsome := hswitch (host.accept key ++ text "\r\n\r\n")
    rw [← List.append_assoc] at hsome
    rw [replyText, pure_bind, sendStr_some hsome w]
    exact ⟨_, rfl, rfl, rfl, ⟨rfl, rfl, rfl, rfl⟩, rfl⟩
  | file name =>
    simp only [replyText, sendFile, answerOf]
    split
    · rw [pure_bind, sendStr_some hbad w]
      exact ⟨_, rfl, rfl, rfl, ⟨rfl, rfl, rfl, rfl⟩, rfl⟩
    · exact ⟨_, rfl, rfl, rfl, ⟨rfl, rfl, rfl, rfl⟩, (List.append_nil _).symm⟩

/-- A header line changes the head, and nothing the gate or the decoder looks at. -/
theorem wsOnLine_head (host : Host) (line : Bytes) (w : World Ws) :
    ∃ w', wsOnLine host line w = .ok () w' ∧
      w'.conn.inner.head = (headerLine w.conn.inner.head line).1 ∧
      w'.conn.inner.bl = w.conn.inner.bl ∧ Unframed w w' ∧
      w'.conn.written = w.conn.written ++ answerOf host (headerLine w.conn.inner.head line).2 := by
  obtain ⟨w', hrun, hhead, hbl, hsame, hwritten⟩ :=
    replyText_answers host (headerLine w.conn.inner.head line).2
      { w with conn := { w.conn with inner := { w.conn.inner with
          wsState := (headerLine w.conn.inner.head line).1.wsState
          path := (headerLine w.conn.inner.head line).1.path
          headers := (headerLine w.conn.inner.head line).1.headers } } }
  refine ⟨w', ?_, hhead, hbl, ⟨hsame.authed, hsame.messages, hsame.framed, hsame.closed⟩, hwritten⟩
  rw [wsOnLine, bind_ok (getConn_apply w), bind_ok (modifyInner_apply _ w)]
  exact hrun

/-- The states of the request. -/
def WscState.Requests (s : WscState) : Prop := s = .doHeader ∨ s = .waitHttp

theorem headerLine_state {h : Head} (hstate : h.wsState.Requests) (line : Bytes) :
    (headerLine h line).1.wsState.Requests ∨
      (headerLine h line).1.wsState = .waitDecodeHeader ∨ (headerLine h line).1.wsState = .dead := by
  unfold headerLine
  rcases hstate with hstate | hstate
  · simp only [hstate]
    split
    · exact Or.inr (Or.inr rfl)
    · exact Or.inl (Or.inr rfl)
  · simp only [hstate]
    split
    · split
      · exact Or.inr (Or.inr rfl)
      · exact Or.inl (Or.inr rfl)
    · split
      · exact Or.inr (Or.inl rfl)
      · exact Or.inr (Or.inr rfl)

/-- No frame was handed on. -/
structure Silent (token : Bytes) (c : Connection Ws) : Prop where
  gated : Gated token [] c
  framed : c.inner.framed = []
  closed : c.inner.closed = false

theorem Silent.hold {c : Connection Ws} (h : Silent token c) (buffer : Bytes) :
    Silent token { c with buffer } :=
  ⟨⟨h.gated.authed, h.gated.messages⟩, h.framed, h.closed⟩

theorem Silent.of_unframed {w w' : World Ws} (h : Silent token w.conn) (hw : Unframed w w') :
    Silent token w'.conn :=
  ⟨⟨hw.authed.trans h.gated.authed, hw.messages.trans h.gated.messages⟩,
    hw.framed.trans h.framed, hw.closed.trans h.closed⟩

theorem Silent.handed {c : Connection Ws} (h : Silent token c) (host : Host) :
    Handed host token c.written [] c where
  gated := h.gated
  framed := h.framed
  closed := h.closed
  replied := by
    refine ⟨[], ?_, ?_⟩
    · rw [h.gated.messages]
      exact .nil
    · simp [repliesTo, textsOf]

/-- A connection and the phase of its stream. -/
def Matches (host : Host) (token : Bytes) (frames : List Received) (c : Connection Ws) :
    Phase → Prop
  | .head h cur => frames = [] ∧ c.inner.head = h ∧ h.wsState.Requests ∧ c.buffer = cur ∧
      10 ∉ cur ∧ Holds c.inner.bl [] ∧ Silent token c
  | .frames stage got => ∃ pre, InFrames host token pre frames stage got c
  | .dead => frames = [] ∧ c.inner.wsState = .dead ∧ Silent token c

def Phase.isFrames : Phase → Bool
  | .frames _ _ => true
  | _ => false

/-- When the handshake completes in a chunk, it completes with its last byte. -/
def EndsChunk (p : Phase) (chunk : Bytes) : Prop :=
  ∀ n < chunk.length, (Stream.run Phase.step p (chunk.take n)).1.isFrames = false

theorem EndsChunk.rest {p : Phase} {pre post : Bytes} (h : EndsChunk p (pre ++ post))
    (hframes : (Stream.run Phase.step p pre).1.isFrames = true) : post = [] := by
  by_contra hne
  have hpos := List.length_pos_iff.mpr hne
  have hnot := h pre.length (by rw [List.length_append]; omega)
  rw [List.take_left, hframes] at hnot
  cases hnot

theorem Phase.step_silent {p : Phase} (h : p.isFrames = false) (b : UInt8) :
    (p.step b).2 = [] := by
  cases p with
  | head hd cur =>
    unfold Phase.step
    dsimp only
    split <;> rfl
  | frames stage got => cases h
  | dead => rfl

/-- No frame arrives in the chunk of the handshake. -/
theorem EndsChunk.silent {p : Phase} {chunk : Bytes} (h : EndsChunk p chunk)
    (hp : p.isFrames = false) : (Stream.run Phase.step p chunk).2 = [] := by
  induction chunk generalizing p with
  | nil => rfl
  | cons b rest ih =>
    have hfirst := Phase.step_silent hp b
    simp only [Stream.run, hfirst, List.nil_append]
    have hrest : EndsChunk (p.step b).1 rest := by
      intro n hn
      exact h (n + 1) (by simpa using hn)
    cases rest with
    | nil => rfl
    | cons c rest => exact ih hrest (hrest 0 (by simp))

theorem after_requests {h : Head} (hstate : h.wsState.Requests) : Phase.after h = .head h [] := by
  unfold Phase.after
  rcases hstate with hstate | hstate <;> rw [hstate]

/-- A refused connection swallows what follows. -/
theorem drain_dead (host : Host) {buffer : Bytes} {fuel : Nat} (hfuel : buffer.length ≤ fuel)
    {w : World Ws} (hstate : w.conn.inner.wsState = .dead) (hsilent : Silent token w.conn) :
    ∃ rest w', drain host (wsOnLine host) fuel buffer w = .ok rest w' ∧
      w'.conn.inner.wsState = .dead ∧ Silent token w'.conn := by
  have hcall : ∀ (_seen : List Bytes) (line : Bytes) (w : World Ws),
      w.conn.inner.wsState = .dead ∧ Silent token w.conn →
      ∃ w', wsOnLine host line w = .ok () w' ∧
        w'.conn.inner.wsState = .dead ∧ Silent token w'.conn := by
    rintro - line w ⟨hdead, hs⟩
    obtain ⟨w', hrun, hhead, -, hsame, -⟩ := wsOnLine_head host line w
    have hkeep : (headerLine w.conn.inner.head line).1 = w.conn.inner.head := by
      simp [headerLine, Ws.head, hdead]
    have hstate' : w'.conn.inner.head.wsState = .dead := by
      rw [hhead, hkeep]
      exact hdead
    exact ⟨w', hrun, hstate', hs.of_unframed hsame⟩
  obtain ⟨w', hrun, hdead, hs⟩ := drain_lines host
    (I := fun _ c => c.inner.wsState = .dead ∧ Silent token c) hcall hfuel
    (w := w) ⟨hstate, hsilent⟩
  exact ⟨_, w', hrun, hdead, hs⟩

/-- At the end of a line. -/
theorem matches_after (host : Host) {c : Connection Ws} (hbuffer : c.buffer = [])
    (hstate : c.inner.wsState.Requests ∨ c.inner.wsState = .waitDecodeHeader ∨
      c.inner.wsState = .dead)
    (hholds : Holds c.inner.bl []) (hsilent : Silent token c) :
    Matches host token [] c (.after c.inner.head) := by
  rcases hstate with hreq | hframes | hdead
  · rw [after_requests hreq]
    exact ⟨rfl, rfl, hreq, hbuffer, by simp, hholds, hsilent⟩
  · have hafter : Phase.after c.inner.head = .frames .header [] := by
      simp [Phase.after, Ws.head, hframes]
    rw [hafter]
    exact ⟨c.written, hholds, by simp [hframes, WscState.Decodes], by simp [Ws.pending, hframes],
      by decide, hsilent.handed host⟩
  · have hafter : Phase.after c.inner.head = .dead := by simp [Phase.after, Ws.head, hdead]
    rw [hafter]
    exact ⟨rfl, hdead, hsilent⟩

/-- The splitter in the request: the lines up to the end of the handshake. -/
theorem drain_head (host : Host) {fuel : Nat} {buffer : Bytes}
    (hfuel : buffer.length ≤ fuel) {w : World Ws}
    (hstate : w.conn.inner.wsState.Requests ∨ w.conn.inner.wsState = .waitDecodeHeader ∨
      w.conn.inner.wsState = .dead)
    (hholds : Holds w.conn.inner.bl []) (hsilent : Silent token w.conn)
    (hends : EndsChunk (.after w.conn.inner.head) buffer) :
    ∃ rest w', drain host (wsOnLine host) fuel buffer w = .ok rest w' ∧
      Matches host token [] { w'.conn with buffer := rest }
        (Stream.run Phase.step (.after w.conn.inner.head) buffer).1 := by
  induction fuel generalizing buffer w with
  | zero =>
    obtain rfl : buffer = [] := List.length_eq_zero_iff.mp (by omega)
    exact ⟨[], w, rfl, matches_after (c := { w.conn with buffer := [] }) host rfl hstate hholds
      (hsilent.hold _)⟩
  | succ fuel ih =>
    rcases hstate with hreq | hframes | hdead
    · rw [after_requests hreq] at hends ⊢
      by_cases hmem : 10 ∈ buffer
      · -- one line, then the rest of the buffer
        unfold drain
        rw [if_pos hmem]
        have hsplit := eq_takeWhile_append 10 hmem
        have hfirst := notMem_takeWhile 10 buffer
        revert hsplit hfirst
        generalize buffer.takeWhile (· ≠ 10) = line
        generalize (buffer.dropWhile (· ≠ 10)).drop 1 = more
        rintro rfl hfirst
        obtain ⟨asked, hchomp⟩ := chomp_eq host line w
        obtain ⟨w₁, hrun, hhead, hbl, hsame, -⟩ :=
          wsOnLine_head host (chomped line) { w with asked }
        have hphase := run_head_line hfirst w.conn.inner.head more
        have hends₁ : EndsChunk (.after w₁.conn.inner.head) more := by
          intro n hn
          have hnot := hends (line ++ 10 :: more.take n).length (by simp; omega)
          have htake : (line ++ 10 :: more).take (line ++ 10 :: more.take n).length =
              line ++ 10 :: more.take n := by
            rw [List.length_append, List.length_cons, List.length_take_of_le (by omega),
              List.take_length_add_append, List.take_succ_cons]
          rw [htake, run_head_line hfirst] at hnot
          rw [hhead]
          exact hnot
        have hstate₁ := headerLine_state (show w.conn.inner.head.wsState.Requests from hreq)
          (chomped line)
        rw [← hhead] at hstate₁
        have hshort : more.length ≤ fuel := by
          simp only [List.length_append, List.length_cons] at hfuel
          omega
        obtain ⟨rest, w₂, hrest, hmatches⟩ := ih hshort hstate₁ (by rw [hbl]; exact hholds)
          (Silent.of_unframed (w := { w with asked }) hsilent hsame) hends₁
        refine ⟨rest, w₂, ?_, ?_⟩
        · rw [bind_ok hchomp, bind_ok hrun, hrest]
        · rw [hphase, ← hhead]
          exact hmatches
      · unfold drain
        rw [if_neg hmem, run_head_none hmem]
        exact ⟨buffer, w, rfl, rfl, rfl, hreq, rfl, hmem, hholds, hsilent.hold _⟩
    · have hafter : Phase.after w.conn.inner.head = .frames .header [] := by
        simp [Phase.after, Ws.head, hframes]
      rw [hafter] at hends
      obtain rfl : buffer = [] := @EndsChunk.rest _ [] _ hends rfl
      exact ⟨[], w, rfl, matches_after (c := { w.conn with buffer := [] }) host rfl
        (Or.inr (Or.inl hframes)) hholds (hsilent.hold _)⟩
    · have hafter : Phase.after w.conn.inner.head = .dead := by
        simp [Phase.after, Ws.head, hdead]
      rw [hafter, run_dead]
      obtain ⟨rest, w', hrun, hdead', hs⟩ := drain_dead host hfuel hdead hsilent
      exact ⟨rest, w', hrun, rfl, hdead', hs.hold _⟩

/-- A chunk respects the phase it arrives in: no field of a frame was begun in an
earlier chunk, no frame is a long one, and the handshake ends with a chunk. -/
def Fits (p : Phase) (chunk : Bytes) : Prop :=
  match p with
  | .head _ _ => EndsChunk p chunk
  | .frames stage got => got = [] ∧ NoLong stage chunk
  | .dead => True

theorem Matches.gated {host : Host} {frames : List Received} {c : Connection Ws} {p : Phase}
    (h : Matches host token frames c p) : Gated token (textsOf frames) c := by
  cases p with
  | head hd cur =>
    obtain ⟨rfl, -, -, -, -, -, hsilent⟩ := h
    exact hsilent.gated
  | frames stage got =>
    obtain ⟨pre, hframes⟩ := h
    exact hframes.handed.gated
  | dead =>
    obtain ⟨rfl, -, hsilent⟩ := h
    exact hsilent.gated

/-- What a process that ends inside a chunk has handed on. -/
def Partly (token : Bytes) (frames : List Received) (c : Connection Ws) : Prop :=
  ∃ handed, handed <+: frames ∧ Gated token (textsOf handed) c

/-- One chunk: the connection follows its stream. -/
theorem wsOnData_matches (host : Host) {frames : List Received} {p : Phase} (chunk : Chunk)
    {w : World Ws} (h : Matches host token frames w.conn p) (hfits : Fits p chunk.bytes) :
    match wsOnData host token chunk w with
    | .ok _ w' => Matches host token (frames ++ (Stream.run Phase.step p chunk.bytes).2) w'.conn
        (Stream.run Phase.step p chunk.bytes).1
    | .error _ w' => ¬ host.Kind ∧
        Partly token (frames ++ (Stream.run Phase.step p chunk.bytes).2) w'.conn := by
  cases p with
  | head hd cur =>
    obtain ⟨rfl, hhead, hreq, hbuffer, hcur, hholds, hsilent⟩ := h
    have hwsState : w.conn.inner.wsState.Requests := by
      rw [← hhead] at hreq
      exact hreq
    -- the buffer of the splitter is the start of the line
    have hjoin : ∀ xs, Stream.run Phase.step (.head hd []) (cur ++ xs) =
        Stream.run Phase.step (.head hd cur) xs := by
      intro xs
      rw [run_append, run_head_none hcur]
      rfl
    have hends : EndsChunk (.after w.conn.inner.head) (w.conn.buffer ++ chunk.bytes) := by
      rw [hhead, after_requests hreq, hbuffer]
      intro n hn
      by_cases hshort : n ≤ cur.length
      · rw [List.take_append_of_le_length hshort,
          run_head_none fun hmem => hcur (List.mem_of_mem_take hmem)]
        rfl
      · have hsplit : (cur ++ chunk.bytes).take n = cur ++ chunk.bytes.take (n - cur.length) := by
          rw [List.take_append, List.take_of_length_le (by omega)]
        rw [hsplit, hjoin]
        rw [List.length_append] at hn
        exact hfits (n - cur.length) (by omega)
    obtain ⟨rest, w', hrun, hmatches⟩ := drain_head host (Nat.le_refl _) (Or.inl hwsState)
      hholds hsilent hends
    have hfeed : wsOnData host token chunk w =
        .ok () { w' with conn := { w'.conn with buffer := rest } } := by
      have hstep : feed host (wsOnLine host) chunk.bytes w =
          .ok () { w' with conn := { w'.conn with buffer := rest } } := by
        rw [feed, bind_ok (getConn_apply w), bind_ok hrun, modifyConn_apply]
      rw [wsOnData, bind_ok (getConn_apply w)]
      rcases hwsState with hstate | hstate <;> rw [hstate] <;> exact hstep
    rw [hhead, after_requests hreq, hbuffer, hjoin] at hmatches
    rw [hfeed, EndsChunk.silent hfits rfl, List.append_nil]
    exact hmatches
  | frames stage got =>
    obtain ⟨rfl, hlong⟩ := hfits
    obtain ⟨pre, hframes⟩ := h
    have hdata := wsOnData_frames host chunk hframes hlong
    rw [run_frames]
    revert hdata
    cases wsOnData host token chunk w with
    | ok a w' => exact fun hdata => ⟨pre, hdata⟩
    | error e w' =>
      rintro ⟨hunkind, done, hprefix, hgated⟩
      exact ⟨hunkind, frames ++ done,
        List.prefix_append_right_inj frames |>.mpr hprefix, hgated⟩
  | dead =>
    obtain ⟨rfl, hdead, hsilent⟩ := h
    have hdata : wsOnData host token chunk w = .ok () w := by
      rw [wsOnData, bind_ok (getConn_apply w), hdead]
      rfl
    rw [hdata, run_dead, List.append_nil]
    exact ⟨rfl, hdead, hsilent⟩

end Grid0Relay.Rpc
