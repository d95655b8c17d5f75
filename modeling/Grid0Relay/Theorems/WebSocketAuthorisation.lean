import Grid0Relay.Logic.RpcFrames

/-!
# Authorisation of the RPC connections

A connection hands a message to `RPCServerSession::onMessage` only behind an earlier
message of its own that was the token. On the line transport this holds however the
stream is cut. On the WebSocket transport it holds when the chunks respect the
frames: `BufferList::get` reads a byte behind the end of a chunk otherwise.
-/

namespace Grid0Relay.Rpc

open Lib Lib.Exec Lib.Stream

/-- The chunks of one client, in the order they arrive in. -/
def chunksOf (id : Nat) (events : List (Nat × Chunk)) : List Chunk :=
  (events.filter (·.1 = id)).map (·.2)

/-- What the client sent. -/
def streamOf (chunks : List Chunk) : Bytes := (chunks.map Chunk.bytes).flatten

theorem streamOf_append (before after : List Chunk) :
    streamOf (before ++ after) = streamOf before ++ streamOf after := by simp [streamOf]

@[simp] theorem streamOf_singleton (chunk : Chunk) : streamOf [chunk] = chunk.bytes := by
  simp [streamOf]

theorem chunksOf_append (id : Nat) (past events : List (Nat × Chunk)) :
    chunksOf id (past ++ events) = chunksOf id past ++ chunksOf id events := by simp [chunksOf]

theorem chunksOf_self (id : Nat) (chunk : Chunk) : chunksOf id [(id, chunk)] = [chunk] := by
  simp [chunksOf]

theorem chunksOf_other {id other : Nat} (h : other ≠ id) (chunk : Chunk) :
    chunksOf id [(other, chunk)] = [] := by
  simp [chunksOf, h]

/-! ## From one connection to the server -/

section Server

variable {δ : Type} {J K : List Chunk → Connection δ → Prop} {P : List Chunk → Chunk → Prop}

/-- What every chunk keeps of its own connection, any interleaving keeps of them all.
A process that ends inside a chunk leaves the connection of that chunk in `K`, the
others as they were. -/
theorem serveAll_keeps (onData : Chunk → RpcM δ Unit)
    (hstep : ∀ cs chunk w, P cs chunk → J cs w.conn →
      match onData chunk w with
      | .ok _ w' => J (cs ++ [chunk]) w'.conn
      | .error _ w' => K (cs ++ [chunk]) w'.conn)
    (past events : List (Nat × Chunk)) {s : Server δ}
    (hP : ∀ id before chunk after,
      chunksOf id (past ++ events) = before ++ chunk :: after → P before chunk)
    (hJ : ∀ id, J (chunksOf id past) (s.conns id)) :
    match serveAll onData events s with
    | .ok _ s' => ∀ id, J (chunksOf id (past ++ events)) (s'.conns id)
    | .error _ s' => ∃ served rest who, past ++ events = served ++ rest ∧
        K (chunksOf who served) (s'.conns who) ∧
        ∀ id, id ≠ who → J (chunksOf id served) (s'.conns id) := by
  induction events generalizing past s with
  | nil =>
    rw [List.append_nil]
    exact hJ
  | cons event rest ih =>
    obtain ⟨who, chunk⟩ := event
    have hsplit : past ++ (who, chunk) :: rest = past ++ [(who, chunk)] ++ rest := by simp
    have hfits : P (chunksOf who past) chunk := by
      refine hP who (chunksOf who past) chunk (chunksOf who rest) ?_
      rw [hsplit, chunksOf_append, chunksOf_append, chunksOf_self, List.append_assoc]
      rfl
    have hone := hstep _ chunk ⟨s.conns who, s.asked⟩ hfits (hJ who)
    have hothers : ∀ c id, id ≠ who →
        J (chunksOf id (past ++ [(who, chunk)])) (Function.update s.conns who c id) := by
      intro c id hid
      rw [chunksOf_append, chunksOf_other (Ne.symm hid), List.append_nil,
        Function.update_of_ne hid]
      exact hJ id
    rw [serveAll]
    cases hrun : onData chunk ⟨s.conns who, s.asked⟩ with
    | ok a w =>
      rw [hrun] at hone
      have hserve : serve onData who chunk s =
          .ok () ⟨Function.update s.conns who w.conn, w.asked⟩ := by simp only [serve, hrun]
      rw [bind_ok hserve, hsplit]
      rw [hsplit] at hP
      refine ih (past ++ [(who, chunk)]) hP fun id => ?_
      by_cases hid : id = who
      · subst hid
        simp only [chunksOf_append, chunksOf_self, Function.update_self]
        exact hone
      · exact hothers w.conn id hid
    | error e w =>
      rw [hrun] at hone
      have hserve : serve onData who chunk s =
          .error e ⟨Function.update s.conns who w.conn, w.asked⟩ := by simp only [serve, hrun]
      rw [bind_error hserve]
      refine ⟨past ++ [(who, chunk)], rest, who, hsplit, ?_, hothers w.conn⟩
      simp only [chunksOf_append, chunksOf_self, Function.update_self]
      exact hone

end Server

/-! ## The condition on the chunks -/

/-- From this phase on every chunk respects the phase it arrives in. -/
def AlignedFrom (p : Phase) : List Chunk → Prop
  | [] => True
  | chunk :: rest => Fits p chunk.bytes ∧ AlignedFrom (Stream.run Phase.step p chunk.bytes).1 rest

/-- The client ends its handshake with a chunk, sends every field of a frame in one
chunk and no frame of 65536 bytes or more. -/
def Aligned (chunks : List Chunk) : Prop := AlignedFrom .start chunks

theorem endsChunk_cons {p : Phase} {b : UInt8} {rest : Bytes} :
    p.isFrames = false ∧ EndsChunk (p.step b).1 rest ↔ EndsChunk p (b :: rest) := by
  constructor
  · rintro ⟨hfirst, hrest⟩ n hn
    cases n with
    | zero => exact hfirst
    | succ n => exact hrest n (by simpa using hn)
  · intro h
    exact ⟨h 0 (by simp), fun n hn => h (n + 1) (by simpa using hn)⟩

instance decidableEndsChunk : ∀ (p : Phase) (chunk : Bytes), Decidable (EndsChunk p chunk)
  | _, [] => .isTrue fun _ h => absurd h (Nat.not_lt_zero _)
  | p, b :: rest =>
    have := decidableEndsChunk (p.step b).1 rest
    decidable_of_iff _ endsChunk_cons

instance (p : Phase) (chunk : Bytes) : Decidable (Fits p chunk) :=
  match p with
  | .head hd cur => inferInstanceAs (Decidable (EndsChunk (.head hd cur) chunk))
  | .frames stage got => inferInstanceAs (Decidable (got = [] ∧ ∀ n < chunk.length + 1,
      (Stream.run Stage.step (stage, []) (chunk.take n)).1.1.isLong = false))
  | .dead => .isTrue trivial

instance decidableAlignedFrom : ∀ (p : Phase) (chunks : List Chunk),
    Decidable (AlignedFrom p chunks)
  | _, [] => .isTrue trivial
  | p, chunk :: rest =>
    have := decidableAlignedFrom (Stream.run Phase.step p chunk.bytes).1 rest
    inferInstanceAs (Decidable (Fits p chunk.bytes ∧ AlignedFrom _ rest))

instance (chunks : List Chunk) : Decidable (Aligned chunks) :=
  inferInstanceAs (Decidable (AlignedFrom .start chunks))

theorem AlignedFrom.fits {p : Phase} {before : List Chunk} {chunk : Chunk} {after : List Chunk}
    (h : AlignedFrom p (before ++ chunk :: after)) :
    Fits (Stream.run Phase.step p (streamOf before)).1 chunk.bytes := by
  induction before generalizing p with
  | nil => exact h.1
  | cons first before ih =>
    have hstream : streamOf (first :: before) = first.bytes ++ streamOf before := by
      simp [streamOf]
    rw [hstream, run_append]
    exact ih h.2

/-! ## The two transports -/

theorem tcp_received (host : Host) (token : Bytes) (events : List (Nat × Chunk)) :
    ∃ s, serveAll (tcpOnData host token) events (Server.start ()) = .ok () s ∧
      ∀ id, TcpReceived token (streamOf (chunksOf id events)) (s.conns id) := by
  have hrun := serveAll_keeps (tcpOnData host token)
    (J := fun cs c => TcpReceived token (streamOf cs) c)
    (K := fun _ _ => False) (P := fun _ _ => True) (fun cs chunk w _ h => by
      obtain ⟨w', hdata, hreceived⟩ := tcpOnData_received host chunk h
      rw [hdata, streamOf_append, streamOf_singleton]
      exact hreceived) [] events (s := Server.start ()) (fun _ _ _ _ _ => trivial)
    (fun _ => ⟨rfl, Gated.init _ _⟩)
  revert hrun
  cases serveAll (tcpOnData host token) events (Server.start ()) with
  | ok a s => exact fun hreceived => ⟨s, rfl, hreceived⟩
  | error e s =>
    rintro ⟨-, -, -, -, hfalse, -⟩
    exact hfalse.elim

/-- What a run of the WebSocket transport has handed on: the messages behind the token,
or a part of them if it did not return. -/
def HandsOn (token : Bytes) (events : List (Nat × Chunk)) :
    EStateM.Result Fault (Server Ws) Unit → Prop
  | .ok _ s => ∀ id, Gated token (textsOf (framesOf (streamOf (chunksOf id events)))) (s.conns id)
  | .error _ s => ∀ id, Partly token (framesOf (streamOf (chunksOf id events))) (s.conns id)

theorem ws_received (host : Host) (token : Bytes) (events : List (Nat × Chunk))
    (haligned : ∀ id, Aligned (chunksOf id events)) :
    HandsOn token events (serveAll (wsOnData host token) events (Server.start Ws.init)) := by
  have hrun := serveAll_keeps (wsOnData host token)
    (J := fun cs c => Matches host token (framesOf (streamOf cs)) c (phaseOf (streamOf cs)))
    (K := fun cs c => Partly token (framesOf (streamOf cs)) c)
    (P := fun cs chunk => Fits (phaseOf (streamOf cs)) chunk.bytes)
    (fun cs chunk w hfits h => by
      have hdata := wsOnData_matches host chunk h hfits
      rw [streamOf_append, streamOf_singleton, framesOf_append, phaseOf_append]
      cases hrun : wsOnData host token chunk w with
      | ok a w' =>
        rw [hrun] at hdata
        exact hdata
      | error e w' =>
        rw [hrun] at hdata
        exact hdata.2)
    [] events (s := Server.start Ws.init)
    (fun id before chunk after hsplit =>
      AlignedFrom.fits (p := .start) (hsplit ▸ haligned id))
    (fun _ => ⟨rfl, rfl, Or.inl rfl, rfl, by simp, .empty, Gated.init _ _, rfl, rfl⟩)
  revert hrun
  cases serveAll (wsOnData host token) events (Server.start Ws.init) with
  | ok a s => exact fun hmatches id => (hmatches id).gated
  | error e s =>
    rintro ⟨served, rest, who, hsplit, hpartly, hothers⟩ id
    have hframes : framesOf (streamOf (chunksOf id served)) <+:
        framesOf (streamOf (chunksOf id events)) := by
      have hevents : events = served ++ rest := hsplit
      rw [hevents, chunksOf_append, streamOf_append, framesOf_append]
      exact List.prefix_append _ _
    by_cases hid : id = who
    · subst hid
      obtain ⟨handed, hhanded, hgated⟩ := hpartly
      exact ⟨handed, hhanded.trans hframes, hgated⟩
    · exact ⟨_, hframes, (hothers id hid).gated⟩

/-- `onMessage` gets the messages behind the token and no others. A line connection is
authorised by the lines it received, however they are cut into chunks and whatever
the other clients send. A WebSocket connection is authorised by its own text frames
if every client's chunks are aligned. -/
theorem onMessage_behind_token (host : Host) (token : Bytes) (events : List (Nat × Chunk)) :
    (∃ s, serveAll (tcpOnData host token) events (Server.start ()) = .ok () s ∧
      ∀ id, Gated token (linesOf [] (streamOf (chunksOf id events))) (s.conns id)) ∧
    ((∀ id, Aligned (chunksOf id events)) →
      HandsOn token events (serveAll (wsOnData host token) events (Server.start Ws.init))) := by
  refine ⟨?_, ws_received host token events⟩
  obtain ⟨s, hrun, hreceived⟩ := tcp_received host token events
  exact ⟨s, hrun, fun id => (hreceived id).gated⟩

/-- The request of a client that asks for a WebSocket. -/
def handshake : Chunk where
  bytes := text "GET / HTTP/1.1\r\nUpgrade: websocket\r\nConnection: Upgrade\r\n" ++
    text "Sec-WebSocket-Version: 13\r\nSec-WebSocket-Protocol: switch-lan-play-rpc\r\n" ++
    text "Sec-WebSocket-Key: a2V5\r\n\r\n"
  nonempty := by decide +kernel
  bound := by decide +kernel

/-- A host whose memory holds `stale` behind the buffers. -/
def quietHost (stale : UInt8) : Host where
  onMessage := fun _ _ => []
  accept := fun _ => []
  strayByte := fun _ => stale
  staleSize := fun _ => 1
  wideShift := fun _ _ => 0
  allocates := fun _ => true

/-- One client sends the token and then a command, another one the command only. -/
def twoClients : List (Nat × Chunk) :=
  [(0, handshake), (1, handshake), (0, ⟨[0x81, 0x02, 97, 98], by decide, by decide⟩),
    (1, ⟨[0x81, 0x01, 115], by decide, by decide⟩), (0, ⟨[0x81, 0x01, 115], by decide, by decide⟩)]

theorem onMessage_behind_token_twoClients :
    (∀ id, Aligned (chunksOf id twoClients)) ∧
    gate (text "ab") (textsOf (framesOf (streamOf (chunksOf 0 twoClients)))) = [text "s"] ∧
    gate (text "ab") (textsOf (framesOf (streamOf (chunksOf 1 twoClients)))) = [] ∧
    ∀ s, serveAll (wsOnData (quietHost 98) (text "ab")) twoClients (Server.start Ws.init) =
        .ok () s →
      (s.conns 0).messages = [text "s"] ∧ (s.conns 1).messages = [] := by
  have hfacts : Aligned (chunksOf 0 twoClients) ∧ Aligned (chunksOf 1 twoClients) ∧
      gate (text "ab") (textsOf (framesOf (streamOf (chunksOf 0 twoClients)))) = [text "s"] ∧
      gate (text "ab") (textsOf (framesOf (streamOf (chunksOf 1 twoClients)))) = [] := by
    decide +kernel
  obtain ⟨haligned₀, haligned₁, hzero, hone⟩ := hfacts
  have haligned : ∀ id, Aligned (chunksOf id twoClients) := by
    intro id
    match id with
    | 0 => exact haligned₀
    | 1 => exact haligned₁
    | n + 2 =>
      have hnone : chunksOf (n + 2) twoClients = [] := rfl
      rw [hnone]
      trivial
  refine ⟨haligned, hzero, hone, fun s hrun => ?_⟩
  have hboth := onMessage_behind_token (quietHost 98) (text "ab") twoClients
  rw [hrun] at hboth
  have hws := hboth.2 haligned
  exact ⟨(hws 0).messages.trans hzero, (hws 1).messages.trans hone⟩

/-- A text frame whose payload is cut after its first byte. -/
def cutFrame : List (Nat × Chunk) :=
  [(0, handshake), (0, ⟨[0x81, 0x02, 97], by decide, by decide⟩),
    (0, ⟨[88], by decide, by decide⟩), (0, ⟨[0x81, 0x01, 115], by decide, by decide⟩)]

/-- The client never sent the token. The byte behind the first piece of its frame is
read in place of the one it sent, and its command is run. -/
theorem stray_byte_authorises :
    text "ab" ∉ textsOf (framesOf (streamOf (chunksOf 0 cutFrame))) ∧
    (after (serveAll (wsOnData (quietHost 98) (text "ab")) cutFrame
      (Server.start Ws.init)) |>.conns 0).messages = [text "s"] := by
  decide +kernel

end Grid0Relay.Rpc
