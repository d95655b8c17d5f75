import Grid0Relay.Rpc.Connection

/-!
# `BufferList` as a byte queue

The chunks of a `BufferList`, behind each other and without the `offset` consumed bytes, are
a queue. Every operation is exact on it but for two comparisons: `get` takes the first byte
of a chunk for the byte behind the chunk before it, and `advance` looks for another chunk
when it has consumed the last.
-/

namespace Grid0Relay.Rpc

open Lib Lib.Exec

variable {δ : Type}

/-- A position at which a chunk other than the first one starts. -/
def StartsChunk (list : List Bytes) (pos : Nat) : Prop :=
  ∃ i, 0 < i ∧ i ≤ list.length ∧ (list.take i).flatten.length = pos

theorem startsChunk_cons {item : Bytes} {rest : List Bytes} {pos : Nat} :
    StartsChunk (item :: rest) pos ↔
      pos = item.length ∨ item.length ≤ pos ∧ StartsChunk rest (pos - item.length) := by
  constructor
  · rintro ⟨i, hpos, hi, hlen⟩
    obtain ⟨i, rfl⟩ := Nat.exists_eq_succ_of_ne_zero (Nat.pos_iff_ne_zero.mp hpos)
    rw [List.take_succ_cons, List.flatten_cons, List.length_append] at hlen
    rw [List.length_cons] at hi
    by_cases hzero : i = 0
    · subst hzero
      exact .inl hlen.symm
    · exact .inr ⟨by omega, i, by omega, by omega, by omega⟩
  · rintro (rfl | ⟨hle, i, hpos, hi, hlen⟩)
    · exact ⟨1, by omega, by simp, by simp⟩
    · refine ⟨i + 1, by omega, by simpa using hi, ?_⟩
      rw [List.take_succ_cons, List.flatten_cons, List.length_append]
      omega

/-! ## Reading -/

/-- Away from the chunk starts the loop finds the byte. -/
theorem getFrom_inside {list : List Bytes} {left actId : Nat} (host : Host) (hle : left ≤ actId)
    (hlt : actId < left + list.flatten.length) (inside : ¬ StartsChunk list (actId - left)) :
    (BufferList.getFrom host actId left list : RpcM δ UInt8) =
      pure (Bytes.byte list.flatten (actId - left)) := by
  induction list generalizing left with
  | nil =>
    rw [List.flatten_nil, List.length_nil] at hlt
    omega
  | cons item rest ih =>
    rw [startsChunk_cons, not_or, not_and] at inside
    rw [List.flatten_cons, List.length_append] at hlt
    rw [BufferList.getFrom, List.flatten_cons]
    by_cases hitem : actId - left < item.length
    · rw [if_pos (by omega), if_pos hitem, Bytes.byte_append_left hitem]
    · have hsub : actId - (left + item.length) = actId - left - item.length := by omega
      rw [if_neg (by omega), ih (by omega) (by omega) (hsub ▸ inside.2 (by omega)), hsub,
        Bytes.byte_append_right (by omega)]

/-- At a chunk start it reads behind the chunk before. -/
theorem getFrom_start {list : List Bytes} {left actId : Nat} (host : Host) (hle : left ≤ actId)
    (start : StartsChunk list (actId - left)) :
    (BufferList.getFrom host actId left list : RpcM δ UInt8) = ask host.strayByte := by
  induction list generalizing left with
  | nil =>
    obtain ⟨i, hpos, hi, -⟩ := start
    rw [List.length_nil] at hi
    omega
  | cons item rest ih =>
    rw [BufferList.getFrom]
    by_cases hitem : actId - left ≤ item.length
    · have hend : actId - left = item.length := by
        rcases startsChunk_cons.mp start with heq | ⟨hlen, -⟩
        · exact heq
        · omega
      rw [if_pos (by omega), if_neg (by omega)]
    · have hsub : actId - (left + item.length) = actId - left - item.length := by omega
      have hrest := (startsChunk_cons.mp start).resolve_left (by omega)
      rw [if_neg (by omega), ih (by omega) (hsub ▸ hrest.2)]

/-! ## The queue -/

/-- The bytes that are not consumed. -/
def BufferList.queue (bl : BufferList) : Bytes := bl.list.flatten.drop bl.offset

/-- The counters count the bytes. -/
structure Counts (bl : BufferList) : Prop where
  total : bl.totalSize = bl.list.flatten.length
  bound : bl.totalSize < 2 ^ 32
  offset : bl.offset ≤ bl.totalSize

theorem take_drop_succ {q : Bytes} {start : Nat} (hlt : start < q.length) (n : Nat) :
    (q.drop start).take (n + 1) = q.byte start :: (q.drop (start + 1)).take n := by
  rw [List.drop_eq_getElem_cons hlt, List.take_succ_cons, Bytes.byte_of_lt hlt]

section Counted

variable {bl : BufferList} (h : Counts bl) (host : Host)
include h

theorem Counts.length_queue : bl.queue.length = bl.totalSize - bl.offset := by
  rw [BufferList.queue, List.length_drop, h.total]

theorem Counts.size : bl.size = bl.queue.length := by
  have hbound := h.bound
  have hoffset := h.offset
  rw [BufferList.size, h.length_queue]
  omega

theorem Counts.add {buf : Bytes} (fits : bl.totalSize + buf.length < 2 ^ 32) :
    Counts (bl.add buf) ∧ (bl.add buf).queue = bl.queue ++ buf := by
  have htotal : (bl.add buf).totalSize = bl.totalSize + buf.length := Nat.mod_eq_of_lt fits
  have hsame : (bl.add buf).offset = bl.offset := rfl
  have hoffset := h.offset
  have hflatten : (bl.list ++ [buf]).flatten = bl.list.flatten ++ buf := by simp
  refine ⟨⟨?_, htotal ▸ fits, ?_⟩, ?_⟩
  · rw [htotal, h.total, BufferList.add, hflatten, List.length_append]
  · rw [htotal, hsame]
    omega
  · rw [BufferList.queue, BufferList.queue, BufferList.add, hflatten]
    exact List.drop_append_of_le_length (h.total ▸ hoffset)

theorem Counts.get_inside {k : Nat} (hk : k < bl.queue.length)
    (inside : ¬ StartsChunk bl.list (bl.offset + k)) :
    (bl.get host k : RpcM δ UInt8) = pure (bl.queue.byte k) := by
  have hlen := h.length_queue
  have htotal := h.total
  have hbound := h.bound
  have hid : (k + bl.offset) % 2 ^ 32 = bl.offset + k := by omega
  rw [BufferList.get, hid, getFrom_inside host (Nat.zero_le (bl.offset + k)) (by omega) inside,
    Nat.sub_zero, BufferList.queue, Bytes.byte_drop]

theorem Counts.get_start {k : Nat} (hk : k < bl.queue.length)
    (start : StartsChunk bl.list (bl.offset + k)) :
    (bl.get host k : RpcM δ UInt8) = ask host.strayByte := by
  have hlen := h.length_queue
  have hbound := h.bound
  have hid : (k + bl.offset) % 2 ^ 32 = bl.offset + k := by omega
  rw [BufferList.get, hid, getFrom_start host (Nat.zero_le (bl.offset + k)) start]

/-- `get` is exact away from the chunk starts, and only there. -/
theorem Counts.get_iff {k : Nat} (hk : k < bl.queue.length) (w : World δ) :
    bl.get host k w = .ok (bl.queue.byte k) w ↔ ¬ StartsChunk bl.list (bl.offset + k) := by
  constructor
  · intro hget start
    rw [h.get_start host hk start, ask, modifyGet_apply] at hget
    have hasked := congrArg World.asked (EStateM.Result.ok.inj hget).2
    exact absurd hasked (Nat.succ_ne_self _)
  · intro inside
    rw [h.get_inside host hk inside, pure_apply]

/-- A read asks for a byte outside of a chunk at most once. -/
theorem Counts.get_asked {k : Nat} (hk : k < bl.queue.length) (w : World δ) :
    ∃ b w', bl.get host k w = .ok b w' ∧ w.asked ≤ w'.asked := by
  by_cases start : StartsChunk bl.list (bl.offset + k)
  · rw [h.get_start host hk start]
    exact ⟨_, _, rfl, Nat.le_succ _⟩
  · rw [h.get_inside host hk start]
    exact ⟨_, _, rfl, Nat.le_refl _⟩

theorem Counts.copyTo_asked {start n : Nat} (hn : start + n ≤ bl.queue.length) (w : World δ) :
    ∃ out w', bl.copyTo host start n w = .ok out w' ∧ w.asked ≤ w'.asked := by
  induction n generalizing start w with
  | zero => exact ⟨[], w, rfl, Nat.le_refl _⟩
  | succ n ih =>
    obtain ⟨b, w₁, hget, hle⟩ := h.get_asked host (by omega : start < bl.queue.length) w
    obtain ⟨rest, w₂, hrest, hle'⟩ := ih (by omega : start + 1 + n ≤ bl.queue.length) w₁
    refine ⟨b :: rest, w₂, ?_, hle.trans hle'⟩
    rw [BufferList.copyTo, bind_ok hget, bind_ok hrest]
    rfl

/-- `copyTo` is exact when none of its bytes is at a chunk start. -/
theorem Counts.copyTo_iff {start n : Nat} (hn : start + n ≤ bl.queue.length) (w : World δ) :
    bl.copyTo host start n w = .ok ((bl.queue.drop start).take n) w ↔
      ∀ i < n, ¬ StartsChunk bl.list (bl.offset + (start + i)) := by
  induction n generalizing start with
  | zero =>
    constructor
    · intro _ i hi
      exact absurd hi (Nat.not_lt_zero i)
    · intro _
      rw [List.take_zero]
      rfl
  | succ n ih =>
    have hstart : start < bl.queue.length := by omega
    have hrest : start + 1 + n ≤ bl.queue.length := by omega
    rw [BufferList.copyTo, take_drop_succ hstart]
    constructor
    · intro hcopy
      obtain ⟨b, w₁, hget, hgoes⟩ := bind_eq_ok hcopy
      obtain ⟨rest, w₂, hcopied, hpure⟩ := bind_eq_ok hgoes
      obtain ⟨hout, rfl⟩ := EStateM.Result.ok.inj hpure
      obtain ⟨rfl, rfl⟩ := List.cons.inj hout
      -- the first read asked nothing: otherwise the world could not be the same at the end
      have hinside : ¬ StartsChunk bl.list (bl.offset + start) := by
        intro hstarts
        rw [h.get_start host hstart hstarts, ask, modifyGet_apply] at hget
        obtain ⟨-, rfl⟩ := EStateM.Result.ok.inj hget
        obtain ⟨_, w', hagain, hle⟩ := h.copyTo_asked host hrest { w₂ with asked := w₂.asked + 1 }
        obtain ⟨-, rfl⟩ := EStateM.Result.ok.inj (hagain.symm.trans hcopied)
        exact absurd hle (Nat.not_succ_le_self _)
      rw [h.get_inside host hstart hinside, pure_apply] at hget
      obtain ⟨-, rfl⟩ := EStateM.Result.ok.inj hget
      intro i hi
      cases i with
      | zero => exact hinside
      | succ i =>
        have hnext := (ih hrest).mp hcopied i (by omega)
        rwa [show start + 1 + i = start + (i + 1) by omega] at hnext
    · intro hinside
      have hfirst : bl.get host start w = .ok (bl.queue.byte start) w :=
        (h.get_iff host hstart w).mpr (hinside 0 (Nat.succ_pos n))
      have hothers : bl.copyTo host (start + 1) n w =
          .ok ((bl.queue.drop (start + 1)).take n) w := by
        refine (ih hrest).mpr ?_
        intro i hi
        have hnext := hinside (i + 1) (by omega)
        rwa [show start + (i + 1) = start + 1 + i by omega] at hnext
      rw [bind_ok hfirst, bind_ok hothers]
      rfl

end Counted

/-! ## Consuming -/

/-- The loop of `advance` stops in the chunk that has the position. -/
theorem drop_inside {list : List Bytes} {offset : Nat} (host : Host)
    (hlt : offset < list.flatten.length) (bound : list.flatten.length < 2 ^ 32) :
    ∃ bl' : BufferList,
      (BufferList.drop host list list.flatten.length offset : RpcM δ BufferList) = pure bl' ∧
        Counts bl' ∧ bl'.queue = list.flatten.drop offset := by
  induction list generalizing offset with
  | nil => exact absurd hlt (Nat.not_lt_zero _)
  | cons item rest ih =>
    rw [List.flatten_cons, List.length_append] at hlt bound
    rw [BufferList.drop]
    by_cases hitem : offset ≥ item.length
    · obtain ⟨bl', hrun, hcounts, hqueue⟩ :=
        ih (by omega : offset - item.length < rest.flatten.length) (by omega)
      have htotal : ((item :: rest).flatten.length + 2 ^ 32 - item.length) % 2 ^ 32 =
          rest.flatten.length := by
        rw [List.flatten_cons, List.length_append]
        omega
      refine ⟨bl', ?_, hcounts, ?_⟩
      · rw [if_pos hitem, htotal, hrun]
      · rw [hqueue, List.flatten_cons, List.drop_append, List.drop_eq_nil_of_le hitem,
          List.nil_append]
    · refine ⟨⟨item :: rest, (item :: rest).flatten.length, offset⟩, if_neg hitem, ?_, rfl⟩
      refine ⟨rfl, ?_, ?_⟩
      · rw [List.flatten_cons, List.length_append]
        exact bound
      · rw [List.flatten_cons, List.length_append]
        exact Nat.le_of_lt hlt

/-- When everything is consumed, the loop reads the size of a chunk that is not there. -/
theorem drop_all {list : List Bytes} {total : Nat} (host : Host) (w w' : World δ)
    (bl' : BufferList) (h : BufferList.drop host list total list.flatten.length w = .ok bl' w') :
    w.asked < w'.asked := by
  induction list generalizing total with
  | nil =>
    rw [BufferList.drop, ask, bind_ok (modifyGet_apply _ w), ite_run] at h
    split_ifs at h
    · cases h
    · obtain ⟨-, rfl⟩ := EStateM.Result.ok.inj h
      exact Nat.lt_succ_self _
  | cons item rest ih =>
    have hlen : (item :: rest).flatten.length = item.length + rest.flatten.length := by
      rw [List.flatten_cons, List.length_append]
    rw [BufferList.drop, if_pos (by omega), hlen, Nat.add_sub_cancel_left] at h
    exact ih h

theorem Counts.advance_inside {bl : BufferList} (h : Counts bl) (host : Host) {n : Nat}
    (hn : n < bl.queue.length) :
    ∃ bl' : BufferList, (bl.advance host n : RpcM δ BufferList) = pure bl' ∧ Counts bl' ∧
      bl'.queue = bl.queue.drop n := by
  have hlen := h.length_queue
  have htotal := h.total
  have hbound := h.bound
  have hoffset : (bl.offset + n) % 2 ^ 32 = bl.offset + n := by omega
  obtain ⟨bl', hrun, hcounts, hqueue⟩ :=
    drop_inside (δ := δ) host (by omega : bl.offset + n < bl.list.flatten.length) (by omega)
  refine ⟨bl', ?_, hcounts, ?_⟩
  · rw [BufferList.advance, hoffset, htotal, hrun]
  · rw [hqueue, BufferList.queue, List.drop_drop]

theorem Counts.advance_all {bl : BufferList} (h : Counts bl) (host : Host) (w w' : World δ)
    (bl' : BufferList) (hrun : bl.advance host bl.queue.length w = .ok bl' w') :
    w.asked < w'.asked := by
  have hlen := h.length_queue
  have hoffset := h.offset
  have hbound := h.bound
  have hall : (bl.offset + bl.queue.length) % 2 ^ 32 = bl.list.flatten.length := by
    rw [← h.total]
    omega
  rw [BufferList.advance, hall] at hrun
  exact drop_all host w w' bl' hrun

/-! ## Runs -/

/-- The lists, and the queues they stand for, that come of additions that keep all the bytes
held below 4 GiB and of advances that leave something. -/
inductive Reached (host : Host) : BufferList → Bytes → Prop
  | empty : Reached host .empty []
  | add {bl : BufferList} {q : Bytes} (before : Reached host bl q) (buf : Bytes)
      (fits : bl.totalSize + buf.length < 2 ^ 32) : Reached host (bl.add buf) (q ++ buf)
  | advance {bl bl' : BufferList} {q : Bytes} {n : Nat} {w w' : World Unit}
      (before : Reached host bl q) (leaves : n < q.length)
      (run : bl.advance host n w = .ok bl' w') : Reached host bl' (q.drop n)

theorem Reached.counts {host : Host} {bl : BufferList} {q : Bytes} (h : Reached host bl q) :
    Counts bl ∧ bl.queue = q := by
  induction h with
  | empty => exact ⟨⟨rfl, by decide, Nat.le_refl _⟩, rfl⟩
  | add before buf fits ih =>
    obtain ⟨hcounts, hqueue⟩ := ih.1.add fits
    exact ⟨hcounts, by rw [hqueue, ih.2]⟩
  | advance before leaves run ih =>
    obtain ⟨hcounts, rfl⟩ := ih
    obtain ⟨bl', hrun, hcounts', hqueue⟩ := hcounts.advance_inside (δ := Unit) host leaves
    rw [hrun] at run
    obtain ⟨rfl, rfl⟩ := EStateM.Result.ok.inj run
    exact ⟨hcounts', hqueue⟩

/-- **`BufferList` is a byte queue**, as long as the bytes it holds are fewer than 4 GiB and
no advance consumes the last one: `size` counts the queue, reads give its bytes and advances
drop them, without looking outside of the chunks or of their list. A read does so exactly
when it keeps away from the first bytes of the chunks behind the first one, an advance exactly
when it leaves something. -/
theorem buffer_list_exact (host : Host) {bl : BufferList} {q : Bytes} (h : Reached host bl q)
    (w : World Unit) :
    bl.size = q.length ∧
    (∀ k < q.length,
      (bl.get host k w = .ok (q.byte k) w ↔ ¬ StartsChunk bl.list (bl.offset + k))) ∧
    (∀ start n, start + n ≤ q.length →
      (bl.copyTo host start n w = .ok ((q.drop start).take n) w ↔
        ∀ i < n, ¬ StartsChunk bl.list (bl.offset + (start + i)))) ∧
    (∀ n ≤ q.length,
      (∃ bl', bl.advance host n w = .ok bl' w ∧ Reached host bl' (q.drop n)) ↔ n < q.length) ∧
    ∀ buf, (bl.add buf).size = (q ++ buf).length ↔ q.length + buf.length < 2 ^ 32 := by
  obtain ⟨hcounts, rfl⟩ := h.counts
  refine ⟨hcounts.size, fun k hk => hcounts.get_iff host hk w,
    fun start n hn => hcounts.copyTo_iff host hn w, ?_, ?_⟩
  · intro n hn
    constructor
    · rintro ⟨bl', hrun, -⟩
      by_contra hall
      obtain rfl : n = bl.queue.length := by omega
      exact absurd (hcounts.advance_all host w w bl' hrun) (Nat.lt_irrefl _)
    · intro hlt
      obtain ⟨bl', hrun, -, -⟩ := hcounts.advance_inside (δ := Unit) host hlt
      have hok : bl.advance host n w = .ok bl' w := by rw [hrun, pure_apply]
      exact ⟨bl', hok, .advance h hlt hok⟩
  · intro buf
    have hlen := hcounts.length_queue
    have hoffset := hcounts.offset
    have hbound := hcounts.bound
    have hsize : (bl.add buf).size = (bl.queue.length + buf.length) % 2 ^ 32 := by
      simp only [BufferList.size, BufferList.add]
      omega
    rw [hsize, List.length_append]
    omega

/-- Memory outside of the chunks holds 7s, and a chunk that is gone had no bytes. -/
def sevens : Host where
  onMessage := fun _ message => message
  accept := id
  strayByte := fun _ => 7
  staleSize := fun _ => 0
  wideShift := fun _ _ => 0
  allocates := fun _ => true

/-- Two chunks. -/
def twoChunks : BufferList := (BufferList.empty.add [1, 2]).add [3, 4]

theorem reached_twoChunks : Reached sevens twoChunks [1, 2, 3, 4] :=
  .add (.add .empty [1, 2] (by decide)) [3, 4] (by decide)

/-- A connection at its beginning. -/
def idle : World Unit := ⟨.init (), 0⟩

theorem buffer_list_exact_twoChunks :
    Reached sevens twoChunks [1, 2, 3, 4] ∧ twoChunks.size = 4 ∧
      twoChunks.get sevens 3 idle = .ok 4 idle := by
  have h := buffer_list_exact sevens reached_twoChunks idle
  refine ⟨reached_twoChunks, h.1, (h.2.1 3 (by decide)).mpr ?_⟩
  rintro ⟨i, hpos, hle, hlen⟩
  have hle' : i ≤ 2 := hle
  obtain rfl | rfl : i = 1 ∨ i = 2 := by omega
  · exact absurd hlen (by decide)
  · exact absurd hlen (by decide)

/-- What an execution returns. -/
def valueOf {α : Type} : EStateM.Result Fault (World Unit) α → Except Fault α
  | .ok value _ => .ok value
  | .error fault _ => .error fault

/-- The third byte is read behind the first chunk, and consuming all four erases a chunk of
an empty list. -/
theorem buffer_list_overruns :
    Reached sevens twoChunks [1, 2, 3, 4] ∧
      valueOf (twoChunks.get sevens 2 idle) = .ok 7 ∧
      (valueOf (twoChunks.advance sevens 4 idle)).toOption.isNone :=
  ⟨reached_twoChunks, by decide, by decide⟩

end Grid0Relay.Rpc
