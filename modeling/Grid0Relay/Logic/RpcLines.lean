import Grid0Relay.Lib.Stream
import Grid0Relay.Rpc.Connection

/-!
# The gate of an RPC connection

What a connection has passed on is determined by the messages it was given: the ones
behind the first that is the token. On top of it, the line splitter: whatever the
chunks, the callback sees the lines of the stream.
-/

namespace Grid0Relay.Rpc

open Lib Lib.Exec Lib.Stream

variable {δ α : Type}

/-! ## Running a connection -/

@[simp] theorem ask_apply (answer : Nat → α) (w : World δ) :
    ask answer w = .ok (answer w.asked) { w with asked := w.asked + 1 } := rfl

@[simp] theorem getConn_apply (w : World δ) : getConn w = .ok w.conn w := rfl

@[simp] theorem modifyConn_apply (f : Connection δ → Connection δ) (w : World δ) :
    modifyConn f w = .ok () { w with conn := f w.conn } := rfl

@[simp] theorem modifyInner_apply (f : δ → δ) (w : World δ) :
    modifyInner f w = .ok () { w with conn := { w.conn with inner := f w.conn.inner } } := rfl

/-- Only the writes and the questions may have changed. -/
structure Writes (w w' : World δ) : Prop where
  buffer : w'.conn.buffer = w.conn.buffer
  authed : w'.conn.authed = w.conn.authed
  messages : w'.conn.messages = w.conn.messages
  inner : w'.conn.inner = w.conn.inner

theorem sendStr_writes (str : Bytes) (w : World δ) :
    ∃ w', sendStr str w = .ok () w' ∧ Writes w w' := by
  unfold sendStr
  split
  · exact ⟨_, rfl, rfl, rfl, rfl, rfl⟩
  · exact ⟨_, rfl, rfl, rfl, rfl, rfl⟩

/-! ## The gate -/

/-- The messages behind the first one that is the token. -/
def gate (token : Bytes) (received : List Bytes) : List Bytes :=
  (received.dropWhile (· ≠ token)).tail

theorem gate_of_notMem {token : Bytes} {received : List Bytes} (h : token ∉ received) :
    gate token received = [] := by
  rw [gate, dropWhile_of_notMem token h, List.tail_nil]

theorem gate_append {token : Bytes} {received : List Bytes} (h : token ∈ received)
    (more : List Bytes) : gate token (received ++ more) = gate token received ++ more := by
  have hdrop : received.dropWhile (· ≠ token) ≠ [] := by
    intro hnil
    have hall := List.dropWhile_eq_nil_iff.mp hnil token h
    simp at hall
  unfold gate
  rw [List.dropWhile_append, if_neg (by simpa using hdrop), List.tail_append_of_ne_nil hdrop]

/-- Neither the token nor a message in front of it is passed on. -/
theorem gate_snoc {token : Bytes} {received : List Bytes} (h : token ∉ received) (line : Bytes) :
    gate token (received ++ [line]) = [] := by
  rw [gate, List.dropWhile_append, dropWhile_of_notMem token h]
  by_cases hline : line = token
  · simp [hline]
  · simp [hline]

/-- The flag and the calls of `onMessage` are those of the received messages. -/
structure Gated (token : Bytes) (received : List Bytes) (c : Connection δ) : Prop where
  authed : c.authed = decide (token ∈ received)
  messages : c.messages = gate token received

theorem Gated.init (token : Bytes) (inner : δ) : Gated token [] (Connection.init inner) :=
  ⟨by simp [Connection.init], rfl⟩

theorem Gated.of_writes {token : Bytes} {received : List Bytes} {w w' : World δ}
    (h : Gated token received w.conn) (hw : Writes w w') : Gated token received w'.conn :=
  ⟨hw.authed.trans h.authed, hw.messages.trans h.messages⟩

/-- What the gate says of a message in front of it. -/
def verdict (token line : Bytes) : Bytes :=
  if line = token then text "success=\"authorized\""
  else text "error=\"authorized failed: invalid token\""

/-- One message more. -/
theorem authorise_gated (host : Host) {token : Bytes} {received : List Bytes} {w : World δ}
    (h : Gated token received w.conn) (line : Bytes) :
    ∃ result w', authorise host token line w = .ok result w' ∧
      Gated token (received ++ [line]) w'.conn ∧ w'.conn.inner = w.conn.inner ∧
      w'.conn.written = w.conn.written ∧
      (token ∈ received → ∃ n, result = host.onMessage n line) ∧
      (token ∉ received → result = verdict token line) := by
  unfold authorise
  rw [bind_ok (getConn_apply w), ite_run, ite_run]
  by_cases hmem : token ∈ received
  · have hauthed : w.conn.authed = true := by rw [h.authed, decide_eq_true hmem]
    rw [if_pos hauthed]
    refine ⟨_, _, rfl, ⟨?_, ?_⟩, rfl, rfl, fun _ => ⟨_, rfl⟩, fun hnot => absurd hmem hnot⟩
    · show w.conn.authed = _
      rw [hauthed, decide_eq_true (List.mem_append_left _ hmem)]
    · show w.conn.messages ++ [line] = _
      rw [h.messages, gate_append hmem]
  · have hauthed : w.conn.authed = false := by rw [h.authed, decide_eq_false hmem]
    rw [if_neg (by rw [hauthed]; simp)]
    have hmessages : w.conn.messages = gate token (received ++ [line]) := by
      rw [gate_snoc hmem, h.messages, gate_of_notMem hmem]
    by_cases hline : line = token
    · rw [if_pos hline]
      refine ⟨_, _, rfl, ⟨?_, hmessages⟩, rfl, rfl, fun hin => absurd hin hmem,
        fun _ => (if_pos hline).symm⟩
      exact (decide_eq_true (by simp [hline])).symm
    · rw [if_neg hline]
      refine ⟨_, _, rfl, ⟨?_, hmessages⟩, rfl, rfl, fun hin => absurd hin hmem,
        fun _ => (if_neg hline).symm⟩
      rw [hauthed, decide_eq_false (by simp [hmem, Ne.symm hline])]

/-! ## Replies -/

/-- These are results of `onMessage` for the messages that were passed on. -/
def Answered (host : Host) (messages answers : List Bytes) : Prop :=
  List.Forall₂ (fun message answer => ∃ n, answer = host.onMessage n message) messages answers

/-- The replies to the received messages: the verdict on each up to the token, then the
answers. -/
def repliesTo (token : Bytes) (received answers : List Bytes) : List Bytes :=
  (received.takeWhile (· ≠ token)).map (verdict token) ++
    (if token ∈ received then [verdict token token] else []) ++ answers

theorem takeWhile_append_mem {token : Bytes} {received : List Bytes} (h : token ∈ received)
    (more : List Bytes) :
    (received ++ more).takeWhile (· ≠ token) = received.takeWhile (· ≠ token) := by
  induction received with
  | nil => exact absurd h List.not_mem_nil
  | cons line received ih =>
    by_cases hline : line = token
    · simp [hline]
    · have hmem : token ∈ received := (List.mem_cons.mp h).resolve_left (Ne.symm hline)
      rw [List.cons_append, List.takeWhile_cons_of_pos (by simpa using hline),
        List.takeWhile_cons_of_pos (by simpa using hline), ih hmem]

theorem takeWhile_notMem {token : Bytes} {received : List Bytes} (h : token ∉ received) :
    received.takeWhile (· ≠ token) = received := by
  rw [List.takeWhile_eq_self_iff]
  intro line hline
  have hne : line ≠ token := fun heq => h (heq ▸ hline)
  simpa using hne

/-- Behind the token a reply is an answer. -/
theorem repliesTo_answer {token : Bytes} {received : List Bytes} (h : token ∈ received)
    (answers : List Bytes) (line answer : Bytes) :
    repliesTo token (received ++ [line]) (answers ++ [answer]) =
      repliesTo token received answers ++ [answer] := by
  rw [repliesTo, repliesTo, takeWhile_append_mem h, if_pos h,
    if_pos (List.mem_append_left _ h), List.append_assoc, List.append_assoc, List.append_assoc]

/-- In front of it, a verdict. -/
theorem repliesTo_verdict {token : Bytes} {received : List Bytes} (h : token ∉ received)
    (line : Bytes) :
    repliesTo token (received ++ [line]) [] =
      repliesTo token received [] ++ [verdict token line] := by
  rw [repliesTo, repliesTo, takeWhile_notMem h, if_neg h]
  by_cases hline : line = token
  · subst hline
    rw [if_pos (by simp), List.takeWhile_append_of_pos]
    · simp
    · intro other hother
      have hne : other ≠ line := fun heq => h (heq ▸ hother)
      simpa using hne
  · have hnot : token ∉ received ++ [line] := by simp [h, Ne.symm hline]
    rw [if_neg hnot, takeWhile_notMem hnot]
    simp

/-! ## Lines -/

/-- A line without its carriage return. -/
def chomped (line : Bytes) : Bytes := if line.getLast? = some 13 then line.dropLast else line

/-- The line an empty one becomes does not depend on the byte in front of it. -/
theorem chomp_eq (host : Host) (line : Bytes) (w : World δ) :
    ∃ asked, chomp host line w = .ok (chomped line) { w with asked } := by
  cases hlast : line.getLast? with
  | some b =>
    refine ⟨w.asked, ?_⟩
    simp only [chomp, chomped, hlast, Option.some.injEq]
    rfl
  | none =>
    obtain rfl : line = [] := List.getLast?_eq_none_iff.mp hlast
    refine ⟨w.asked + 1, ?_⟩
    simp only [chomp, chomped, List.getLast?_nil, bind_ok (ask_apply _ w), List.dropLast_nil,
      ite_self]
    rfl

/-- The newline-terminated lines of a stream behind the start of one. -/
def rawLines (cur stream : Bytes) : List Bytes := (Stream.run (lineStep 10) cur stream).2

/-- The lines without their carriage returns. -/
def linesOf (cur stream : Bytes) : List Bytes := (Stream.run (lineStep 10) cur stream).2.map chomped

/-- The line a stream ends in. -/
def unfinished (stream : Bytes) : Bytes := (Stream.run (lineStep 10) [] stream).1

theorem notMem_unfinished (stream : Bytes) : 10 ∉ unfinished stream := by
  have hkeep : ∀ (xs cur : Bytes), 10 ∉ cur → 10 ∉ (Stream.run (lineStep 10) cur xs).1 := by
    intro xs
    induction xs with
    | nil => exact fun cur h => h
    | cons x xs ih =>
      intro cur h
      refine ih _ ?_
      unfold lineStep
      split
      · simp
      · rename_i hx
        simp [h, Ne.symm hx]
  exact hkeep stream [] (by simp)

/-- The loop of the splitter takes one line after the other. `I` is what a round keeps,
indexed by the lines so far. -/
theorem drain_rounds (host : Host) {callback : Bytes → RpcM δ Unit}
    {I : List Bytes → World δ → Prop}
    (hround : ∀ seen line w, I seen w →
      ∃ w', (chomp host line >>= callback) w = .ok () w' ∧ I (seen ++ [line]) w')
    {fuel : Nat} {buffer : Bytes} (hfuel : buffer.length ≤ fuel) (seen : List Bytes) {w : World δ}
    (h : I seen w) :
    ∃ w', drain host callback fuel buffer w = .ok (unfinished buffer) w' ∧
      I (seen ++ rawLines [] buffer) w' := by
  induction fuel generalizing buffer seen w with
  | zero =>
    obtain rfl : buffer = [] := List.length_eq_zero_iff.mp (by omega)
    exact ⟨w, rfl, by simpa [rawLines, Stream.run] using h⟩
  | succ fuel ih =>
    unfold drain
    by_cases hmem : 10 ∈ buffer
    · rw [if_pos hmem]
      have hsplit := eq_takeWhile_append 10 hmem
      have hfirst := notMem_takeWhile 10 buffer
      revert hsplit hfirst
      generalize buffer.takeWhile (· ≠ 10) = line
      generalize (buffer.dropWhile (· ≠ 10)).drop 1 = rest
      rintro rfl hfirst
      obtain ⟨w₁, hrun, hI⟩ := hround seen line w h
      have hshort : rest.length ≤ fuel := by
        simp only [List.length_append, List.length_cons] at hfuel
        omega
      obtain ⟨w₂, hrest, hI₂⟩ := ih hshort _ hI
      refine ⟨w₂, ?_, ?_⟩
      · rw [← bind_assoc, bind_ok hrun, hrest, unfinished, unfinished,
          run_lineStep_line 10 hfirst]
      · simpa [rawLines, run_lineStep_line 10 hfirst] using hI₂
    · rw [if_neg hmem]
      have hnone := run_lineStep_none 10 hmem []
      refine ⟨w, ?_, ?_⟩
      · rw [unfinished, hnone]
        rfl
      · simpa [rawLines, hnone] using h

/-- A call of `feed` goes on where the stream so far has ended. -/
theorem feed_rounds (host : Host) {callback : Bytes → RpcM δ Unit}
    {I : List Bytes → World δ → Prop}
    (hround : ∀ seen line w, I seen w →
      ∃ w', (chomp host line >>= callback) w = .ok () w' ∧ I (seen ++ [line]) w')
    (hbuffer : ∀ seen w buffer, I seen w → I seen { w with conn := { w.conn with buffer } })
    {stream : Bytes} {w : World δ} (hheld : w.conn.buffer = unfinished stream)
    (h : I (rawLines [] stream) w) (data : Bytes) :
    ∃ w', feed host callback data w = .ok () w' ∧
      w'.conn.buffer = unfinished (stream ++ data) ∧ I (rawLines [] (stream ++ data)) w' := by
  have hstart := run_lineStep_none 10 (notMem_unfinished stream) []
  have hjoin : Stream.run (lineStep 10) [] (unfinished stream ++ data) =
      Stream.run (lineStep 10) (unfinished stream) data := by
    rw [run_append, hstart]
    rfl
  have hend : unfinished (unfinished stream ++ data) = unfinished (stream ++ data) := by
    rw [unfinished, hjoin, unfinished, unfinished, run_append]
  have hlines : rawLines [] stream ++ rawLines [] (unfinished stream ++ data) =
      rawLines [] (stream ++ data) := by
    rw [rawLines, rawLines, rawLines, hjoin, run_append]
    rfl
  obtain ⟨w₁, hdrain, hI⟩ :=
    drain_rounds host hround (Nat.le_refl (w.conn.buffer ++ data).length) _ h
  rw [hheld, hlines] at hI
  refine ⟨{ w₁ with conn := { w₁.conn with buffer := unfinished (stream ++ data) } }, ?_, rfl,
    hbuffer _ _ _ hI⟩
  rw [feed, bind_ok (getConn_apply w), bind_ok hdrain, hheld, hend]
  rfl

section Lines

variable (host : Host) {callback : Bytes → RpcM δ Unit} {I : List Bytes → Connection δ → Prop}
  (hcall : ∀ seen line w, I seen w.conn →
    ∃ w', callback line w = .ok () w' ∧ I (seen ++ [line]) w'.conn)
include hcall

/-- What the callback keeps, a round keeps. -/
theorem round_lines (seen : List Bytes) (line : Bytes) (w : World δ)
    (h : I (seen.map chomped) w.conn) :
    ∃ w', (chomp host line >>= callback) w = .ok () w' ∧
      I ((seen ++ [line]).map chomped) w'.conn := by
  obtain ⟨asked, hchomp⟩ := chomp_eq host line w
  obtain ⟨w', hrun, hI⟩ := hcall (seen.map chomped) (chomped line) { w with asked } h
  refine ⟨w', (bind_ok hchomp).trans hrun, ?_⟩
  rw [List.map_append]
  exact hI

theorem drain_lines {fuel : Nat} {buffer : Bytes} (hfuel : buffer.length ≤ fuel)
    {w : World δ} (h : I [] w.conn) :
    ∃ w', drain host callback fuel buffer w = .ok (unfinished buffer) w' ∧
      I (linesOf [] buffer) w'.conn := by
  obtain ⟨w', hrun, hI⟩ := drain_rounds host (I := fun seen w => I (seen.map chomped) w.conn)
    (round_lines host hcall) hfuel [] h
  exact ⟨w', hrun, hI⟩

/-- What the splitter holds and what its callback has seen are those of the stream,
however it was cut. -/
theorem feed_lines (hbuffer : ∀ seen c buffer, I seen c → I seen { c with buffer })
    {stream data : Bytes} {w : World δ} (hheld : w.conn.buffer = unfinished stream)
    (h : I (linesOf [] stream) w.conn) :
    ∃ w', feed host callback data w = .ok () w' ∧
      w'.conn.buffer = unfinished (stream ++ data) ∧ I (linesOf [] (stream ++ data)) w'.conn :=
  feed_rounds host (I := fun seen w => I (seen.map chomped) w.conn) (round_lines host hcall)
    (fun _ _ _ hI => hbuffer _ _ _ hI) hheld h data

end Lines

/-! ## `TCPConnection` -/

/-- A TCP connection that has received this stream. -/
structure TcpReceived (token stream : Bytes) (c : Connection Unit) : Prop where
  held : c.buffer = unfinished stream
  gated : Gated token (linesOf [] stream) c

theorem tcpOnLine_gated (host : Host) (token : Bytes) (seen : List Bytes) (line : Bytes)
    (w : World Unit) (h : Gated token seen w.conn) :
    ∃ w', tcpOnLine host token line w = .ok () w' ∧ Gated token (seen ++ [line]) w'.conn := by
  obtain ⟨result, w₁, hrun, hgated, -, -, -⟩ := authorise_gated host h line
  obtain ⟨w₂, hsend, hwrites⟩ := sendStr_writes (result ++ text "\n# end\n") w₁
  exact ⟨w₂, (bind_ok hrun).trans hsend, hgated.of_writes hwrites⟩

theorem tcpOnData_received (host : Host) {token stream : Bytes} {w : World Unit} (chunk : Chunk)
    (h : TcpReceived token stream w.conn) :
    ∃ w', tcpOnData host token chunk w = .ok () w' ∧
      TcpReceived token (stream ++ chunk.bytes) w'.conn := by
  obtain ⟨w', hrun, hheld, hgated⟩ := feed_lines host (tcpOnLine_gated host token)
    (fun _ _ _ h => ⟨h.authed, h.messages⟩) h.held h.gated
  exact ⟨w', hrun, hheld, hgated⟩

end Grid0Relay.Rpc
