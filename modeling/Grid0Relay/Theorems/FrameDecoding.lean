import Grid0Relay.Theorems.BufferList
import Grid0Relay.Theorems.WebSocketAuthorisation

/-!
# The frame decoder over an exact byte queue

With a buffer list that is an exact byte queue, `WSConnection::onData` hands every frame on
once, in order and whatever the cuts, as long as none has a 64-bit length: assembling one
shifts a promoted `int` by 32 bits and more, which C++ leaves undefined.
-/

namespace Grid0Relay.Rpc

open Lib Lib.Exec Lib.Stream

/-! ## Frames and their encoding -/

/-- The three ways to write a length. -/
inductive Form
  | short
  | medium
  | long
deriving DecidableEq

def Form.Fits : Form → Nat → Prop
  | .short, n => n < 126
  | .medium, n => n < 2 ^ 16
  | .long, n => n < 2 ^ 63

/-- A frame of RFC 6455. -/
structure Frame where
  fin : Bool
  rsv1 : Bool
  rsv2 : Bool
  rsv3 : Bool
  opcode : Fin 16
  key : Option { key : Bytes // key.length = 4 }
  form : Form
  payload : Bytes
  fits : form.Fits payload.length

/-- The first byte of a frame. -/
def firstByte (fin rsv1 rsv2 rsv3 : Bool) (opcode : Fin 16) : UInt8 :=
  UInt8.ofNat (fin.toNat * 128 + rsv1.toNat * 64 + rsv2.toNat * 32 + rsv3.toNat * 16 + opcode.val)

/-- The second one. -/
def secondByte (mask : Bool) (length : Nat) : UInt8 := UInt8.ofNat (mask.toNat * 128 + length)

/-- A number in eight bytes, most significant first. -/
def bytes64 (n : Nat) : Bytes := (List.range 8).map fun i => UInt8.ofNat (n / 2 ^ (56 - 8 * i))

namespace Frame

/-- The seven bits of the second byte. -/
def lengthField (f : Frame) : Nat :=
  match f.form with
  | .short => f.payload.length
  | .medium => 126
  | .long => 127

def lengthBytes (f : Frame) : Bytes :=
  match f.form with
  | .short => []
  | .medium => Bytes.bytes16 f.payload.length
  | .long => bytes64 f.payload.length

/-- The masking key and the payload it masks. -/
def body (f : Frame) : Bytes :=
  match f.key with
  | none => f.payload
  | some key => key.1 ++ unmask key.1 f.payload

def head (f : Frame) : Bytes :=
  [firstByte f.fin f.rsv1 f.rsv2 f.rsv3 f.opcode, secondByte f.key.isSome f.lengthField]

def encode (f : Frame) : Bytes := f.head ++ (f.lengthBytes ++ f.body)

/-- What `onFrame` is to be called with. -/
def received (f : Frame) : Received := ⟨UInt8.ofNat f.opcode.val, f.payload⟩

end Frame

theorem firstByte_opcode (fin rsv1 rsv2 rsv3 : Bool) (opcode : Fin 16) :
    firstByte fin rsv1 rsv2 rsv3 opcode &&& 0x0f = UInt8.ofNat opcode.val := by
  revert fin rsv1 rsv2 rsv3 opcode
  decide

theorem secondByte_length (mask : Bool) {length : Nat} (h : length < 128) :
    (secondByte mask length &&& 0x7f).toNat = length := by
  have hall : ∀ (mask : Bool) (n : Fin 128), (secondByte mask n.val &&& 0x7f).toNat = n.val := by
    decide
  exact hall mask ⟨length, h⟩

theorem secondByte_mask (mask : Bool) {length : Nat} (h : length < 128) :
    decide (secondByte mask length &&& 0x80 ≠ 0) = mask := by
  have hall : ∀ (mask : Bool) (n : Fin 128), decide (secondByte mask n.val &&& 0x80 ≠ 0) = mask := by
    decide
  exact hall mask ⟨length, h⟩

theorem Frame.lengthField_lt (f : Frame) : f.lengthField < 128 := by
  have hfits := f.fits
  unfold lengthField
  cases hform : f.form with
  | short =>
    rw [hform] at hfits
    exact Nat.lt_trans hfits (by decide)
  | medium => exact (by decide : 126 < 128)
  | long => exact (by decide : 127 < 128)

@[simp] theorem length_unmask (key data : Bytes) : (unmask key data).length = data.length := by
  simp [unmask]

theorem unmask_unmask (key data : Bytes) : unmask key (unmask key data) = data := by
  apply List.ext_getElem
  · simp
  · intro i h₁ h₂
    simp only [unmask, List.getElem_mapIdx, UInt8.xor_assoc, UInt8.xor_self, UInt8.xor_zero]

/-! ## Reading a frame field by field -/

/-- The fields whose length is known to be below 64 KiB. -/
def Stage.Short : Stage → Prop
  | .length64 _ _ => False
  | .maskKey _ length => length < 2 ^ 16
  | .payload _ length _ => length < 2 ^ 16
  | _ => True

/-- Whole fields, none of them a long length, lead from one field to another and from some
frames to more. -/
structure Leads (a : Stage × List Received) (xs : Bytes) (b : Stage × List Received) : Prop where
  reads : ∃ out, Stream.run Stage.step (a.1, []) xs = ((b.1, []), out) ∧ b.2 = a.2 ++ out
  short : ∀ n, (Stream.run Stage.step (a.1, []) (xs.take n)).1.1.Short

theorem Leads.refl {a : Stage × List Received} (h : a.1.Short) : Leads a [] a where
  reads := ⟨[], rfl, (List.append_nil _).symm⟩
  short := by
    intro n
    rw [List.take_nil]
    exact h

theorem Leads.trans {a b c : Stage × List Received} {xs ys : Bytes} (hx : Leads a xs b)
    (hy : Leads b ys c) : Leads a (xs ++ ys) c where
  reads := by
    obtain ⟨out, hrun, hout⟩ := hx.reads
    obtain ⟨out', hrun', hout'⟩ := hy.reads
    refine ⟨out ++ out', ?_, ?_⟩
    · rw [run_append, hrun, hrun']
    · rw [hout', hout, List.append_assoc]
  short := by
    obtain ⟨out, hrun, -⟩ := hx.reads
    intro n
    by_cases hn : n ≤ xs.length
    · rw [List.take_append_of_le_length hn]
      exact hx.short n
    · have htake : (xs ++ ys).take n = xs ++ ys.take (n - xs.length) := by
        rw [List.take_append, List.take_of_length_le (by omega)]
      rw [htake, run_append, hrun]
      exact hy.short _

/-- Behind other frames. -/
theorem Leads.behind {a b : Stage × List Received} {xs : Bytes} (h : Leads a xs b)
    (frames : List Received) : Leads (a.1, frames ++ a.2) xs (b.1, frames ++ b.2) where
  reads := by
    obtain ⟨out, hrun, hout⟩ := h.reads
    exact ⟨out, hrun, by rw [hout, List.append_assoc]⟩
  short := h.short

/-- One field. -/
theorem leads_field (stage : Stage) (xs : Bytes) (hlen : xs.length = stage.want)
    (hpos : 0 < stage.want) (hshort : stage.Short) (hnext : (stage.next xs).1.Short) :
    Leads (stage, []) xs (stage.next xs) where
  reads := ⟨_, run_fieldStep_whole Stage.want Stage.next hlen hpos, rfl⟩
  short := by
    intro n
    by_cases hn : n < xs.length
    · have hpart : Stream.run Stage.step (stage, []) (xs.take n) = ((stage, [] ++ xs.take n), []) :=
        run_fieldStep_short Stage.want Stage.next (by simp; omega)
      rw [hpart]
      exact hshort
    · have hall : Stream.run Stage.step (stage, []) xs =
          (((stage.next xs).1, []), (stage.next xs).2) :=
        run_fieldStep_whole Stage.want Stage.next hlen hpos
      rw [List.take_of_length_le (by omega), hall]
      exact hnext

/-- A payload as it was before the masking. -/
def unmasked : Option Bytes → Bytes → Bytes
  | some key, data => unmask key data
  | none, data => data

/-- A payload, also an empty one. -/
theorem leads_payload (opcode : UInt8) (key : Option Bytes) {data : Bytes} {length : Nat}
    (hlength : data.length = length) (hdata : length < 2 ^ 16) :
    Leads (Stage.body opcode length key) data (.header, [⟨opcode, unmasked key data⟩]) := by
  have hnext : Stage.next (.payload opcode length key) data =
      (.header, [⟨opcode, unmasked key data⟩]) := by
    cases key <;> rfl
  unfold Stage.body
  by_cases hzero : length = 0
  · obtain rfl := List.length_eq_zero_iff.mp (hlength.trans hzero)
    rw [if_pos hzero]
    have hnone : unmasked key [] = [] := by
      cases key <;> rfl
    rw [hnone]
    exact .refl trivial
  · rw [if_neg hzero]
    have hfield := leads_field (.payload opcode length key) data hlength
      (Nat.pos_of_ne_zero hzero) hdata (by rw [hnext]; trivial)
    rw [hnext] at hfield
    exact hfield

/-- The rest of a frame behind its length. -/
theorem leads_body (f : Frame) (hlen : f.payload.length < 2 ^ 16) (opcode : UInt8) :
    Leads (Stage.afterLength f.key.isSome opcode f.payload.length) f.body
      (.header, [⟨opcode, f.payload⟩]) := by
  unfold Frame.body Stage.afterLength
  cases f.key with
  | none => exact leads_payload opcode none rfl hlen
  | some key =>
    have hkey : Leads (.maskKey opcode f.payload.length, []) key.1
        (Stage.body opcode f.payload.length (some key.1)) := by
      refine leads_field (.maskKey opcode f.payload.length) key.1 key.2 (Nat.succ_pos 3) hlen ?_
      show (Stage.body opcode f.payload.length (some key.1)).1.Short
      unfold Stage.body
      split_ifs
      · trivial
      · exact hlen
    have hpayload := leads_payload opcode (some key.1) (length_unmask key.1 f.payload) hlen
    rw [unmasked, unmask_unmask] at hpayload
    exact hkey.trans hpayload

theorem short_afterLength (mask : Bool) (opcode : UInt8) {length : Nat} (h : length < 2 ^ 16) :
    (Stage.afterLength mask opcode length).1.Short := by
  unfold Stage.afterLength Stage.body
  split_ifs
  · exact h
  · trivial
  · exact h

/-- A frame without a long length. -/
theorem leads_frame (f : Frame) (hform : f.form ≠ .long) :
    Leads (.header, []) f.encode (.header, [f.received]) := by
  have hfits := f.fits
  have hfirst : Bytes.byte f.head 0 &&& 0x0f = UInt8.ofNat f.opcode.val := firstByte_opcode ..
  have hlength : (Bytes.byte f.head 1 &&& 0x7f).toNat = f.lengthField :=
    secondByte_length _ f.lengthField_lt
  have hmask : decide (Bytes.byte f.head 1 &&& 0x80 ≠ 0) = f.key.isSome :=
    secondByte_mask _ f.lengthField_lt
  unfold Frame.encode Frame.lengthBytes
  unfold Frame.lengthField at hlength
  cases hcase : f.form with
  | short =>
    rw [hcase] at hfits hlength
    have hlen : f.payload.length < 126 := hfits
    have hnext : Stage.next .header f.head =
        Stage.afterLength f.key.isSome (UInt8.ofNat f.opcode.val) f.payload.length := by
      have h126 : f.payload.length ≠ 126 := by omega
      have h127 : f.payload.length ≠ 127 := by omega
      simp only [Stage.next, hfirst, hlength, hmask, h126, h127, if_false]
    have hhead := leads_field .header f.head rfl (by decide) trivial
      (by rw [hnext]; exact short_afterLength _ _ (by omega))
    rw [hnext] at hhead
    exact hhead.trans (leads_body f (by omega) _)
  | medium =>
    rw [hcase] at hfits hlength
    have hlen : f.payload.length < 2 ^ 16 := hfits
    have hnext : Stage.next .header f.head =
        (.length16 f.key.isSome (UInt8.ofNat f.opcode.val), []) := by
      simp only [Stage.next, hfirst, hlength, hmask, if_true]
    have hhead := leads_field .header f.head rfl (by decide) trivial
      (by rw [hnext]; trivial)
    rw [hnext] at hhead
    have hvalue : Bytes.net16 (Bytes.bytes16 f.payload.length) 0 = f.payload.length := by
      rw [Bytes.net16_bytes16]
      omega
    have hsize : Stage.next (.length16 f.key.isSome (UInt8.ofNat f.opcode.val))
        (Bytes.bytes16 f.payload.length) =
          Stage.afterLength f.key.isSome (UInt8.ofNat f.opcode.val) f.payload.length := by
      rw [Stage.next, hvalue]
    have hword := leads_field (.length16 f.key.isSome (UInt8.ofNat f.opcode.val))
      (Bytes.bytes16 f.payload.length) rfl (Nat.succ_pos 1) trivial
      (by rw [hsize]; exact short_afterLength _ _ hlen)
    rw [hsize] at hword
    exact hhead.trans (hword.trans (leads_body f hlen _))
  | long => exact absurd hcase hform

/-- Frames behind each other. -/
theorem leads_frames {frames : List Frame} (hform : ∀ f ∈ frames, f.form ≠ .long) :
    Leads (.header, []) (frames.flatMap Frame.encode) (.header, frames.map Frame.received) := by
  induction frames with
  | nil => exact .refl trivial
  | cons f frames ih =>
    have hrest := ih fun f hf => hform f (List.mem_cons_of_mem _ hf)
    rw [List.flatMap_cons, List.map_cons]
    exact (leads_frame f (hform f List.mem_cons_self)).trans (hrest.behind [f.received])

/-! ## The decoder over an exact queue -/

/-- `add` of an exact queue: one chunk with everything that is not consumed. The other
operations do not leave the chunk. -/
def BufferList.join (bl : BufferList) (buf : Bytes) : BufferList :=
  ⟨[bl.queue ++ buf], (bl.queue ++ buf).length % 2 ^ 32, 0⟩

/-- `WSConnection::onData` behind the handshake, with an exact queue. -/
def exactOnData (host : Host) (token : Bytes) (chunk : Chunk) : RpcM Ws Unit := do
  let c ← getConn
  modifyInner fun s => { s with bl := s.bl.join chunk.bytes }
  decodeLoop host token (c.inner.bl.queue.length + chunk.bytes.length + 2)

/-- The chunks of a connection, one after the other. -/
def exactAll (host : Host) (token : Bytes) : List Chunk → RpcM Ws Unit
  | [] => pure ()
  | chunk :: rest => do
    exactOnData host token chunk
    exactAll host token rest

theorem Holds.queue {bl : BufferList} {avail : Bytes} (h : Holds bl avail) : bl.queue = avail := by
  cases h with
  | empty => rfl
  | chunk item offset inside bound => simp [BufferList.queue]

theorem Holds.join {bl : BufferList} {got : Bytes} (h : Holds bl got) (chunk : Chunk)
    (hbound : (got ++ chunk.bytes).length < 2 ^ 32) :
    Holds (bl.join chunk.bytes) (got ++ chunk.bytes) := by
  have hpos : 0 < (got ++ chunk.bytes).length := by
    have := List.length_pos_iff.mpr chunk.nonempty
    rw [List.length_append]
    omega
  have hheld := Holds.chunk (got ++ chunk.bytes) 0 hpos hbound
  rw [List.drop_zero] at hheld
  rw [BufferList.join, h.queue, Nat.mod_eq_of_lt hbound]
  exact hheld

variable {host : Host} {token : Bytes} {pre : List Bytes} {frames : List Received} {w : World Ws}

/-- The beginning of a field is not lost when the field is cut. -/
theorem run_got {stage : Stage} {got : Bytes} (h : got.length < stage.want) (xs : Bytes) :
    Stream.run Stage.step (stage, []) (got ++ xs) = Stream.run Stage.step (stage, got) xs := by
  have hshort : Stream.run Stage.step (stage, []) got = ((stage, [] ++ got), []) :=
    run_fieldStep_short Stage.want Stage.next (by simpa using h)
  rw [run_append, hshort]
  rfl

theorem exactOnData_frames {stage : Stage} {got : Bytes} (kind : host.Kind) (chunk : Chunk)
    (h : InFrames host token pre frames stage got w.conn)
    (hlong : NoLong stage (got ++ chunk.bytes))
    (hbound : (got ++ chunk.bytes).length < 2 ^ 32) :
    ∃ w', exactOnData host token chunk w = .ok () w' ∧
      InFrames host token pre
        (frames ++ (Stream.run Stage.step (stage, got) chunk.bytes).2)
        (Stream.run Stage.step (stage, got) chunk.bytes).1.1
        (Stream.run Stage.step (stage, got) chunk.bytes).1.2 w'.conn := by
  have hloop := decodeLoop_frames host (w := { w with conn := { w.conn with
      inner := { w.conn.inner with bl := w.conn.inner.bl.join chunk.bytes } } })
    (h.holds.join chunk hbound) h.state h.pending (h.handed.congr rfl rfl rfl rfl rfl) hlong
    (by rw [List.length_append, h.holds.queue]; omega :
      (got ++ chunk.bytes).length + 1 < w.conn.inner.bl.queue.length + chunk.bytes.length + 2)
  rw [exactOnData, bind_ok (getConn_apply w), bind_ok (modifyInner_apply _ w), ← run_got h.short]
  revert hloop
  cases decodeLoop host token _ _ with
  | ok a w' => exact fun hframes => ⟨w', rfl, hframes⟩
  | error e w' => exact fun hstop => absurd kind hstop.1

/-- What the decoder waits for is short all along a stream. -/
def ShortStream (stream : Bytes) : Prop :=
  ∀ n, (Stream.run Stage.step (.header, []) (stream.take n)).1.1.Short

theorem want_of_short {stage : Stage} (h : stage.Short) : stage.want < 2 ^ 16 := by
  cases stage with
  | header | length16 mask opcode => exact (by decide : 2 < 2 ^ 16)
  | length64 mask opcode => exact h.elim
  | maskKey opcode length => exact (by decide : 4 < 2 ^ 16)
  | payload opcode length key => exact h

theorem not_long_of_short {stage : Stage} (h : stage.Short) : stage.isLong = false := by
  cases stage with
  | length64 mask opcode => exact h.elim
  | _ => rfl

theorem ShortStream.left {a b : Bytes} (h : ShortStream (a ++ b)) : ShortStream a := by
  intro n
  have hn := h (min n a.length)
  rw [List.take_append_of_le_length (Nat.min_le_right _ _)] at hn
  rwa [← List.take_eq_take_min] at hn

/-- The whole of a chunk, and what was there of its first field. -/
theorem ShortStream.noLong {past bytes : Bytes} {stage : Stage} {got : Bytes}
    (h : ShortStream (past ++ bytes))
    (hpast : (Stream.run Stage.step (.header, []) past).1 = (stage, got))
    (hgot : got.length < stage.want) : NoLong stage (got ++ bytes) := by
  have hstage : stage.Short := by
    have := h past.length
    rwa [List.take_left, hpast] at this
  intro n hn
  by_cases hle : n ≤ got.length
  · have hpart : Stream.run Stage.step (stage, []) (got.take n) = ((stage, [] ++ got.take n), []) :=
      run_fieldStep_short Stage.want Stage.next (by simp; omega)
    rw [List.take_append_of_le_length hle, hpart]
    exact not_long_of_short hstage
  · have htake : (got ++ bytes).take n = got ++ bytes.take (n - got.length) := by
      rw [List.take_append, List.take_of_length_le (by omega)]
    have hall : (past ++ bytes).take (past.length + (n - got.length)) =
        past ++ bytes.take (n - got.length) := List.take_length_add_append _
    have hshort := h (past.length + (n - got.length))
    rw [hall, run_append, hpast] at hshort
    rw [htake, run_got hgot]
    exact not_long_of_short hshort

/-- The chunks of a stream without long lengths: the frames of the stream are handed on. -/
theorem exactAll_frames (kind : host.Kind) {past : Bytes} (chunks : List Chunk)
    (hshort : ShortStream (past ++ streamOf chunks))
    (h : InFrames host token pre (Stream.run Stage.step (.header, []) past).2
      (Stream.run Stage.step (.header, []) past).1.1
      (Stream.run Stage.step (.header, []) past).1.2 w.conn) :
    ∃ w', exactAll host token chunks w = .ok () w' ∧
      InFrames host token pre (Stream.run Stage.step (.header, []) (past ++ streamOf chunks)).2
        (Stream.run Stage.step (.header, []) (past ++ streamOf chunks)).1.1
        (Stream.run Stage.step (.header, []) (past ++ streamOf chunks)).1.2 w'.conn := by
  induction chunks generalizing past w with
  | nil =>
    have hnone : past ++ streamOf [] = past := List.append_nil past
    rw [hnone]
    exact ⟨w, rfl, h⟩
  | cons chunk rest ih =>
    have hstream : past ++ streamOf (chunk :: rest) = past ++ chunk.bytes ++ streamOf rest := by
      simp [streamOf]
    rw [hstream] at hshort ⊢
    have hstage : (Stream.run Stage.step (.header, []) past).1.1.Short := by
      have hpast := hshort.left.left past.length
      rwa [List.take_length] at hpast
    have hbound : ((Stream.run Stage.step (.header, []) past).1.2 ++ chunk.bytes).length <
        2 ^ 32 := by
      have hwant := want_of_short hstage
      have hgot := h.short
      have hchunk := chunk.bound
      rw [List.length_append]
      omega
    obtain ⟨w₁, hrun, h₁⟩ :=
      exactOnData_frames kind chunk h (hshort.left.noLong rfl h.short) hbound
    have hpast : Stream.run Stage.step (.header, []) (past ++ chunk.bytes) =
        ((Stream.run Stage.step (Stream.run Stage.step (.header, []) past).1 chunk.bytes).1,
          (Stream.run Stage.step (.header, []) past).2 ++
            (Stream.run Stage.step (Stream.run Stage.step (.header, []) past).1 chunk.bytes).2) :=
      run_append ..
    obtain ⟨w₂, hrest, h₂⟩ := ih hshort (by rw [hpast]; exact h₁)
    exact ⟨w₂, by rw [exactAll, bind_ok hrun, hrest], h₂⟩

/-- A connection after the handshake: it waits for the first frame. -/
structure Upgraded (token : Bytes) (c : Connection Ws) : Prop where
  state : c.inner.wsState = .waitDecodeHeader
  empty : c.inner.bl = .empty
  silent : Silent token c

theorem Upgraded.inFrames {c : Connection Ws} (h : Upgraded token c) (host : Host) :
    InFrames host token c.written [] .header [] c where
  holds := by
    rw [h.empty]
    exact .empty
  state := by
    rw [h.state]
    trivial
  pending := by simp [Ws.pending, h.state]
  short := by decide
  handed := h.silent.handed host

/-- Frames without long lengths, in any chunks. -/
theorem exactAll_short (kind : host.Kind) {frames : List Frame}
    (hform : ∀ f ∈ frames, f.form ≠ .long) {chunks : List Chunk}
    (hsplit : streamOf chunks = frames.flatMap Frame.encode) (h : Upgraded token w.conn) :
    ∃ w', exactAll host token chunks w = .ok () w' ∧
      InFrames host token w.conn.written (frames.map Frame.received) .header [] w'.conn := by
  have hleads := leads_frames hform
  obtain ⟨out, hrun, hout⟩ := hleads.reads
  rw [← hsplit] at hrun
  have hshort : ShortStream ([] ++ streamOf chunks) := by
    rw [List.nil_append, hsplit]
    exact hleads.short
  obtain ⟨w', hall, hframes⟩ := exactAll_frames kind chunks hshort (h.inFrames host)
  rw [List.nil_append, hrun] at hframes
  rw [List.nil_append] at hout
  subst hout
  exact ⟨w', hall, hframes⟩

/-! ## A length in 64 bits -/

/-- A host that shifts out all ones. -/
def evil : Host where
  onMessage := fun _ _ => []
  accept := id
  strayByte := fun _ => 0
  staleSize := fun _ => 1
  wideShift := fun _ _ => 0xffffffff
  allocates := fun _ => true

theorem evil_kind : evil.Kind := ⟨fun _ => Nat.one_pos, fun _ => rfl⟩

/-- Waiting for a payload that is longer than any queue. -/
structure Hung (frames : List Received) (c : Connection Ws) : Prop where
  state : c.inner.wsState = .waitingForMaskKey ∨ c.inner.wsState = .waitingForPayload
  length : 2 ^ 32 ≤ c.inner.frame.length
  framed : c.inner.framed = frames

section Keeping

variable {δ : Type} (host : Host)

theorem keeps_ask {α : Type} (answer : Nat → α) :
    Keeps World.conn (ask answer : RpcM δ α) := fun _ => rfl

theorem keeps_getFrom (actId left : Nat) (list : List Bytes) :
    Keeps World.conn (BufferList.getFrom host actId left list : RpcM δ UInt8) := by
  induction list generalizing left with
  | nil => exact fun _ => rfl
  | cons item rest ih =>
    rw [BufferList.getFrom]
    refine steps_ite (fun _ => ?_) fun _ => ih _
    exact steps_guard fun _ => keeps_ask _

theorem keeps_copyTo (bl : BufferList) (start n : Nat) :
    Keeps World.conn (bl.copyTo host start n : RpcM δ Bytes) := by
  induction n generalizing start with
  | zero => exact steps_pure _
  | succ n ih =>
    exact steps_bind (keeps_getFrom host _ _ _) fun _ => steps_bind (ih _) fun _ => steps_pure _

theorem keeps_drop (list : List Bytes) (total offset : Nat) :
    Keeps World.conn (BufferList.drop host list total offset : RpcM δ BufferList) := by
  induction list generalizing total offset with
  | nil =>
    refine steps_bind (keeps_ask _) fun _ => ?_
    exact steps_ite (fun _ => fun _ => rfl) fun _ => steps_pure _
  | cons item rest ih =>
    rw [BufferList.drop]
    exact steps_ite (fun _ => ih _ _) fun _ => steps_pure _

end Keeping

/-- A connection that hangs goes on hanging. -/
def Hangs (frames : List Received) (w w' : World Ws) : Prop :=
  Hung frames w.conn → Hung frames w'.conn

instance (frames : List Received) : Std.Refl (Hangs frames) := ⟨fun _ h => h⟩

instance (frames : List Received) : IsTrans (World Ws) (Hangs frames) :=
  ⟨fun _ _ _ h h' hung => h' (h hung)⟩

section Hanging

variable {frames : List Received} {host : Host}

/-- What keeps the connection keeps it hanging. -/
theorem hangs_of_keeps {α : Type} {x : RpcM Ws α} (h : Keeps World.conn x) :
    Steps (Hangs frames) x := by
  intro w hung
  have hsame : (after (x w)).conn = w.conn := h w
  rw [hsame]
  exact hung

theorem hangs_getConn : Steps (Hangs frames) (getConn : RpcM Ws (Connection Ws)) :=
  hangs_of_keeps fun _ => rfl

/-- Only the payload's length, the frames and the state count. -/
theorem hangs_modifyInner {f : Ws → Ws}
    (hstate : ∀ s, (f s).wsState = s.wsState ∨ (f s).wsState = .waitingForPayload)
    (hlength : ∀ s, (f s).frame.length = s.frame.length)
    (hframed : ∀ s, (f s).framed = s.framed) :
    Steps (Hangs frames) (modifyInner f) := by
  intro w hung
  refine ⟨?_, ?_, (hframed _).trans hung.framed⟩
  · show (f w.conn.inner).wsState = _ ∨ (f w.conn.inner).wsState = _
    rcases hstate w.conn.inner with hsame | hpayload
    · rw [hsame]
      exact hung.state
    · exact .inr hpayload
  · show 2 ^ 32 ≤ (f w.conn.inner).frame.length
    rw [hlength]
    exact hung.length

theorem hangs_advance (n : Nat) : Steps (Hangs frames) (advance host n) := by
  refine steps_bind hangs_getConn fun c => ?_
  refine steps_bind (hangs_of_keeps (keeps_drop host _ _ _)) fun bl => ?_
  exact hangs_modifyInner (fun _ => .inl rfl) (fun _ => rfl) fun _ => rfl

theorem hangs_decodeHeader : Steps (Hangs frames) (decodeHeader host) := by
  intro w hung
  have hskip : decodeHeader host w = .ok false w := by
    have hnot : w.conn.inner.wsState ≠ .waitDecodeHeader := by
      rcases hung.state with h | h <;> rw [h] <;> decide
    rw [decodeHeader, bind_ok (getConn_apply w), if_pos hnot]
    rfl
  rw [hskip]
  exact hung

theorem hangs_decode16BitLength : Steps (Hangs frames) (decode16BitLength host) := by
  intro w hung
  have hskip : decode16BitLength host w = .ok () w := by
    have hnot : w.conn.inner.wsState ≠ .waitingFor16BitLength := by
      rcases hung.state with h | h <;> rw [h] <;> decide
    rw [decode16BitLength, bind_ok (getConn_apply w), if_neg fun h => hnot h.1]
    rfl
  rw [hskip]
  exact hung

theorem hangs_decode64BitLength : Steps (Hangs frames) (decode64BitLength host) := by
  intro w hung
  have hskip : decode64BitLength host w = .ok () w := by
    have hnot : w.conn.inner.wsState ≠ .waitingFor64BitLength := by
      rcases hung.state with h | h <;> rw [h] <;> decide
    rw [decode64BitLength, bind_ok (getConn_apply w), if_neg fun h => hnot h.1]
    rfl
  rw [hskip]
  exact hung

theorem hangs_decodeMaskKey : Steps (Hangs frames) (decodeMaskKey host) := by
  refine steps_bind hangs_getConn fun c => ?_
  refine steps_ite (fun _ => steps_ite (fun _ => steps_when fun _ => ?_)
    fun _ => ?_) fun _ => steps_pure _
  · refine steps_bind (hangs_of_keeps (keeps_copyTo host _ _ _)) fun maskBytes => ?_
    refine steps_bind (hangs_modifyInner (fun _ => .inl rfl) (fun _ => rfl) fun _ => rfl)
      fun _ => steps_bind (hangs_advance 4) fun _ => ?_
    exact hangs_modifyInner (fun _ => .inr rfl) (fun _ => rfl) fun _ => rfl
  · exact hangs_modifyInner (fun _ => .inr rfl) (fun _ => rfl) fun _ => rfl

/-- No queue is that long. -/
theorem hangs_decodePayload : Steps (Hangs frames) (decodePayload host token) := by
  intro w hung
  have hskip : decodePayload host token w = .ok () w := by
    have hsize : w.conn.inner.bl.size < 2 ^ 32 := Nat.mod_lt _ (by decide)
    have hlength := hung.length
    rw [decodePayload, bind_ok (getConn_apply w), if_neg fun h => by omega]
    rfl
  rw [hskip]
  exact hung

theorem hangs_decodeLoop (fuel : Nat) : Steps (Hangs frames) (decodeLoop host token fuel) := by
  induction fuel with
  | zero => exact steps_pure _
  | succ fuel ih =>
    refine steps_bind ?_ fun broke => steps_bind hangs_getConn fun c =>
      steps_ite (fun _ => ih) fun _ => steps_pure _
    refine steps_bind hangs_decodeHeader fun broke => steps_guard fun _ => ?_
    exact steps_bind hangs_decode16BitLength fun _ => steps_bind hangs_decode64BitLength fun _ =>
      steps_bind hangs_decodeMaskKey fun _ => steps_bind hangs_decodePayload fun _ => steps_pure _

theorem hangs_exactAll (host : Host) (token : Bytes) (chunks : List Chunk) :
    Steps (Hangs frames) (exactAll host token chunks) := by
  induction chunks with
  | nil => exact steps_pure _
  | cons chunk rest ih =>
    refine steps_bind (steps_bind hangs_getConn fun c => ?_) fun _ => ih
    refine steps_bind ?_ fun _ => hangs_decodeLoop _
    exact hangs_modifyInner (fun _ => .inl rfl) (fun _ => rfl) fun _ => rfl

end Hanging

/-- What the bytes put into the length only adds to it. -/
theorem longLength_le (host : Host) {bl : BufferList} {avail : Bytes} (h : Holds bl avail)
    {left i : Nat} (hlen : i + left ≤ avail.length) (length : Nat) (w : World Ws) :
    ∃ length' asked, longLength host bl left i length w = .ok length' { w with asked } ∧
      length ≤ length' := by
  induction left generalizing i length w with
  | zero => exact ⟨length, w.asked, rfl, Nat.le_refl _⟩
  | succ left ih =>
    obtain ⟨v, asked, hshift⟩ : ∃ v asked,
        shifted host (avail.byte i) (64 - 8 * i - 8) w = .ok v { w with asked } := by
      unfold shifted
      split_ifs
      · exact ⟨_, w.asked, rfl⟩
      · exact ⟨_, w.asked + 1, rfl⟩
    obtain ⟨length', asked', hrest, hle⟩ :=
      ih (by omega : i + 1 + left ≤ avail.length) (length ||| v) { w with asked }
    refine ⟨length', asked', ?_, Nat.left_le_or.trans hle⟩
    rw [longLength, h.get host (by omega), pure_bind, bind_ok hshift, hrest]

/-- With that host every length in 64 bits is out of reach. -/
theorem longLength_evil {bl : BufferList} {avail : Bytes} (h : Holds bl avail)
    (hlen : 8 ≤ avail.length) (w : World Ws) :
    ∃ length asked, longLength evil bl 8 0 0 w = .ok length { w with asked } ∧
      2 ^ 32 ≤ length := by
  obtain ⟨v, hshift, hv⟩ : ∃ v, shifted evil (avail.byte 0) (64 - 8 * 0 - 8) w =
      .ok v { w with asked := w.asked + 1 } ∧ 2 ^ 32 ≤ v := by
    have hones : ¬ (UInt32.toNat 0xffffffff) < 2 ^ 31 := by decide
    refine ⟨UInt32.toNat 0xffffffff + (2 ^ 64 - 2 ^ 32), ?_, by omega⟩
    unfold shifted
    rw [if_neg (by decide)]
    exact congrArg (fun v => EStateM.Result.ok v _) (if_neg hones)
  obtain ⟨length, asked, hrest, hle⟩ := longLength_le evil h
    (by omega : 1 + 7 ≤ avail.length) (0 ||| v) { w with asked := w.asked + 1 }
  refine ⟨length, asked, ?_, hv.trans (Nat.right_le_or.trans hle)⟩
  rw [longLength, h.get evil (by omega), pure_bind, bind_ok hshift, hrest]

/-- The decoder has read the first two bytes of a frame with a length in 64 bits. -/
def awaitingLength (w : World Ws) (frame : WsFrame) (bl : BufferList) (asked : Nat) : World Ws :=
  ⟨{ w.conn with inner := { w.conn.inner with
    frame, bl, wsState := .waitingFor64BitLength } }, asked⟩

theorem decodeHeader_long {host : Host} (kind : host.Kind)
    (hstate : w.conn.inner.wsState = .waitDecodeHeader) {first second : UInt8} {rest : Bytes}
    (hholds : Holds w.conn.inner.bl (first :: second :: rest))
    (hlong : (second &&& 0x7f).toNat = 127) :
    ∃ bl asked, decodeHeader host w =
      .ok false (awaitingLength w (frameOf first second) bl asked) ∧ Holds bl rest := by
  have hlength : (frameOf first second).length = 127 := hlong
  have hbegin : beginFrame host (frameOf first second) w =
      .ok () (awaitingLength w (frameOf first second) w.conn.inner.bl w.asked) := by
    rw [beginFrame, hlength, if_neg (by decide), if_pos rfl]
    rfl
  have hget₀ : (w.conn.inner.bl.get host 0 : RpcM Ws UInt8) = pure first :=
    hholds.get host (Nat.succ_pos _)
  have hget₁ : (w.conn.inner.bl.get host 1 : RpcM Ws UInt8) = pure second :=
    hholds.get host (Nat.succ_lt_succ (Nat.succ_pos _))
  rcases advance_holds host (n := 2)
      (w := awaitingLength w (frameOf first second) w.conn.inner.bl w.asked) hholds (by simp)
    with ⟨bl, asked, hrun, hleft⟩ | ⟨hunkind, -⟩
  · refine ⟨bl, asked, ?_, hleft⟩
    have hsize : ¬ w.conn.inner.bl.size < 2 := by
      rw [hholds.size, List.length_cons, List.length_cons]
      omega
    rw [decodeHeader, bind_ok (getConn_apply w), if_neg (by simp [hstate]), if_neg hsize, hget₀,
      pure_bind, hget₁, pure_bind, bind_ok hbegin, bind_ok hrun]
    rfl
  · exact absurd kind hunkind

/-- The length itself. -/
theorem decode64BitLength_evil {frames : List Received}
    (hstate : w.conn.inner.wsState = .waitingFor64BitLength) {size : Bytes}
    (hholds : Holds w.conn.inner.bl size) (hsize : 8 ≤ size.length)
    (hframed : w.conn.inner.framed = frames) :
    ∃ w', decode64BitLength evil w = .ok () w' ∧ Hung frames w'.conn := by
  obtain ⟨length, asked, hlength, hlarge⟩ := longLength_evil hholds hsize w
  rcases advance_holds evil (n := 8) (w := ⟨{ w.conn with inner := { w.conn.inner with
      frame := { w.conn.inner.frame with length } } }, asked⟩) hholds hsize
    with ⟨bl, asked', hrun, -⟩ | ⟨hunkind, -⟩
  · have hactive : w.conn.inner.wsState = .waitingFor64BitLength ∧ w.conn.inner.bl.size ≥ 8 :=
      ⟨hstate, hholds.size ▸ hsize⟩
    have hdata : makeData evil length { w with asked } = .ok () { w with asked } := rfl
    have hall : decode64BitLength evil w = .ok () ⟨{ w.conn with inner := { w.conn.inner with
        frame := { w.conn.inner.frame with length }, bl, wsState := .waitingForMaskKey } },
          asked'⟩ := by
      rw [decode64BitLength, bind_ok (getConn_apply w), if_pos hactive, bind_ok hlength,
        bind_ok hdata, bind_ok (modifyInner_apply _ _), bind_ok hrun, modifyInner_apply]
    exact ⟨_, hall, .inl rfl, hlarge, hframed⟩
  · exact absurd evil_kind hunkind

/-- A frame whose length is in 64 bits hangs the connection. -/
theorem exactOnData_long {frames : List Received}
    (h : InFrames evil token pre frames .header [] w.conn)
    (hstate : w.conn.inner.wsState = .waitDecodeHeader) {first second : UInt8} {size : Bytes}
    (hlong : (second &&& 0x7f).toNat = 127) (hsize : size.length = 8) (chunk : Chunk)
    (hchunk : chunk.bytes = first :: second :: size) :
    Hung frames (after (exactOnData evil token chunk w)).conn := by
  have hheld := h.holds.join chunk (by rw [List.nil_append, hchunk]; simp [hsize])
  rw [List.nil_append] at hheld
  generalize hw₀ : { w with conn := { w.conn with
    inner := { w.conn.inner with bl := w.conn.inner.bl.join chunk.bytes } } } = w₀
  have hholds : Holds w₀.conn.inner.bl (first :: second :: size) := by
    rw [← hw₀, ← hchunk]
    exact hheld
  have hstate₀ : w₀.conn.inner.wsState = .waitDecodeHeader := by
    rw [← hw₀]
    exact hstate
  have hframed₀ : w₀.conn.inner.framed = frames := by
    rw [← hw₀]
    exact h.handed.framed
  obtain ⟨bl, asked, hheader, hleft⟩ := decodeHeader_long evil_kind hstate₀ hholds hlong
  have hword : decode16BitLength evil (awaitingLength w₀ (frameOf first second) bl asked) =
      .ok () (awaitingLength w₀ (frameOf first second) bl asked) := by
    rw [decode16BitLength, bind_ok (getConn_apply _), if_neg fun hactive => by cases hactive.1]
    rfl
  obtain ⟨w₂, hlength, hung⟩ := decode64BitLength_evil
    (w := awaitingLength w₀ (frameOf first second) bl asked) rfl hleft (Nat.le_of_eq hsize.symm)
    hframed₀
  have hround : decodeRound evil token w₀ = (decodeMaskKey evil >>= fun _ =>
      decodePayload evil token >>= fun _ => pure false) w₂ := by
    rw [decodeRound, bind_ok hheader, if_neg (by decide), bind_ok hword, bind_ok hlength]
  have hrest : Hung frames (after (decodeRound evil token w₀)).conn := by
    rw [hround]
    exact steps_bind hangs_decodeMaskKey
      (fun _ => steps_bind hangs_decodePayload fun _ => steps_pure _) w₂ hung
  rw [exactOnData, bind_ok (getConn_apply w), bind_ok (modifyInner_apply _ w), hw₀, decodeLoop,
    bind_apply]
  cases hrun : decodeRound evil token w₀ with
  | ok broke w₃ =>
    rw [hrun] at hrest
    exact steps_bind hangs_getConn
      (fun c => steps_ite (fun _ => hangs_decodeLoop _) fun _ => steps_pure _) w₃ hrest
  | error e w₃ =>
    rw [hrun] at hrest
    exact hrest

/-! ## All frames -/

/-- A chunk for every byte. -/
def singles (bytes : Bytes) : List Chunk :=
  bytes.map fun b => ⟨[b], List.cons_ne_nil _ _, Nat.succ_le_of_lt (by decide)⟩

@[simp] theorem streamOf_singles (bytes : Bytes) : streamOf (singles bytes) = bytes := by
  induction bytes with
  | nil => rfl
  | cons b bytes ih => exact congrArg (b :: ·) ih

theorem exactAll_append (host : Host) (chunks more : List Chunk) :
    exactAll host token (chunks ++ more) =
      (exactAll host token chunks >>= fun _ => exactAll host token more) := by
  induction chunks with
  | nil => exact (pure_bind _ _).symm
  | cons chunk chunks ih => simp only [List.cons_append, exactAll, ih, bind_assoc]

/-- Between two frames the decoder is in its first state. -/
theorem InFrames.between {c : Connection Ws} {frames : List Received}
    (h : InFrames host token pre frames .header [] c) :
    c.inner.wsState = .waitDecodeHeader := by
  have hstate := h.state
  have hpending := h.pending
  unfold Ws.pending Stage.afterLength Stage.body at hpending
  cases hcase : c.inner.wsState with
  | waitDecodeHeader => rfl
  | doHeader | waitHttp | dead => rw [hcase] at hstate; exact hstate.elim
  | waitingFor16BitLength | waitingFor64BitLength => rw [hcase] at hpending; cases hpending
  | waitingForMaskKey =>
    simp only [hcase] at hpending
    split_ifs at hpending <;> cases hpending
  | waitingForPayload =>
    simp only [hcase] at hpending
    split_ifs at hpending <;> cases hpending

/-- A connection right behind its handshake. -/
def upgradedWorld : World Ws := ⟨.init { Ws.init with wsState := .waitDecodeHeader }, 0⟩

theorem upgraded_upgradedWorld (token : Bytes) : Upgraded token upgradedWorld.conn :=
  ⟨rfl, rfl, ⟨by simp [upgradedWorld, Connection.init], rfl⟩, rfl, rfl⟩

/-- Behind the frames before it, a frame with a length in 64 bits is never handed on. -/
theorem long_hangs (token : Bytes) {before : List Frame} (hbefore : ∀ f ∈ before, f.form ≠ .long) {f : Frame}
    (hlong : f.form = .long) (rest : List Frame) :
    ∃ chunks, streamOf chunks = (before ++ f :: rest).flatMap Frame.encode ∧
      ∀ w', exactAll evil token chunks upgradedWorld = .ok () w' →
        w'.conn.inner.framed = before.map Frame.received := by
  have hsecond : (secondByte f.key.isSome f.lengthField &&& 0x7f).toNat = 127 := by
    rw [secondByte_length _ f.lengthField_lt, Frame.lengthField, hlong]
  have hbytes : f.lengthBytes = bytes64 f.payload.length := by rw [Frame.lengthBytes, hlong]
  have hsize : f.lengthBytes.length = 8 := by rw [hbytes]; rfl
  let chunk : Chunk := ⟨f.head ++ f.lengthBytes, by simp [Frame.head], by simp [Frame.head, hsize]⟩
  refine ⟨singles (before.flatMap Frame.encode) ++
    chunk :: singles (f.body ++ rest.flatMap Frame.encode), ?_, ?_⟩
  · have hcons : ∀ rest, streamOf (chunk :: rest) = chunk.bytes ++ streamOf rest := fun _ => rfl
    rw [streamOf_append, hcons, streamOf_singles, streamOf_singles, List.flatMap_append,
      List.flatMap_cons, Frame.encode]
    simp [chunk]
  · intro w' hrun
    obtain ⟨w₁, hfirst, hframes⟩ := exactAll_short evil_kind hbefore (streamOf_singles _)
      (upgraded_upgradedWorld token)
    rw [exactAll_append, bind_ok hfirst, exactAll] at hrun
    obtain ⟨_, w₂, hchunk, hrest⟩ := bind_eq_ok hrun
    have hung := exactOnData_long hframes hframes.between hsecond hsize chunk rfl
    rw [hchunk] at hung
    have hhangs :=
      hangs_exactAll evil token (singles (f.body ++ rest.flatMap Frame.encode)) w₂ hung
    rw [hrest] at hhangs
    exact hhangs.framed

/-- **Frame decoding.** With an exact byte queue `onData` hands every frame on once, in order,
with its opcode and its unmasked payload, for all cuts into chunks and whatever the undefined
shifts give, exactly when no frame has its length in 64 bits. -/
theorem frame_decoding_iff (token : Bytes) (frames : List Frame) :
    (∀ host : Host, host.Kind → ∀ chunks : List Chunk,
      streamOf chunks = frames.flatMap Frame.encode →
      ∀ w : World Ws, Upgraded token w.conn →
        ∃ w', exactAll host token chunks w = .ok () w' ∧
          w'.conn.inner.framed = frames.map Frame.received) ↔
      ∀ f ∈ frames, f.form ≠ .long := by
  constructor
  · intro hall f hf hlong
    obtain ⟨g, hg⟩ : ∃ g, frames.find? (·.form = .long) = some g :=
      Option.isSome_iff_exists.mp (List.find?_isSome.mpr ⟨f, hf, by simpa using hlong⟩)
    obtain ⟨hglong, before, rest, rfl, hbefore⟩ := List.find?_eq_some_iff_append.mp hg
    obtain ⟨chunks, hsplit, hhangs⟩ := long_hangs token
      (fun f hf => by simpa using hbefore f hf) (by simpa using hglong) rest
    obtain ⟨w', hrun, hframed⟩ :=
      hall evil evil_kind chunks hsplit upgradedWorld (upgraded_upgradedWorld token)
    have hlengths := congrArg List.length (hframed.symm.trans (hhangs w' hrun))
    simp at hlengths
  · intro hform host kind chunks hsplit w h
    obtain ⟨w', hrun, hframes⟩ := exactAll_short kind hform hsplit h
    exact ⟨w', hrun, hframes.handed.framed⟩

/-- A masked text. -/
def maskedText : Frame where
  fin := true
  rsv1 := false
  rsv2 := false
  rsv3 := false
  opcode := 1
  key := some ⟨[7, 1, 9, 200], rfl⟩
  form := .medium
  payload := [115, 116, 97]
  fits := (by decide : 3 < 2 ^ 16)

theorem frame_decoding_iff_maskedText :
    (∀ f ∈ [maskedText], f.form ≠ .long) ∧
    ∃ w', exactAll evil (text "ab") (singles ([maskedText].flatMap Frame.encode)) upgradedWorld =
        .ok () w' ∧ w'.conn.inner.framed = [⟨1, [115, 116, 97]⟩] := by
  have hform : ∀ f ∈ [maskedText], f.form ≠ .long := by simp [maskedText]
  exact ⟨hform, (frame_decoding_iff (text "ab") [maskedText]).mpr hform evil evil_kind _
    (streamOf_singles _) _ (upgraded_upgradedWorld _)⟩

/-- One byte with its length in 64 bits. -/
def longFrame : Frame where
  fin := true
  rsv1 := false
  rsv2 := false
  rsv3 := false
  opcode := 2
  key := none
  form := .long
  payload := [65]
  fits := (by decide : 1 < 2 ^ 63)

/-- Where the undefined shifts set a high bit, a payload of one byte is waited for in vain; where
they give nothing, the length `2 ^ 31` is still read as a negative `int`. -/
theorem long_length_undefined :
    (after (exactAll evil [] (singles longFrame.encode) upgradedWorld)).conn.inner.framed = [] ∧
    (after (exactAll (quietHost 0) [] (singles ([0x82, 127] ++ bytes64 (2 ^ 31)))
      upgradedWorld)).conn.inner.frame.length = 2 ^ 64 - 2 ^ 31 := by
  decide +kernel

end Grid0Relay.Rpc
