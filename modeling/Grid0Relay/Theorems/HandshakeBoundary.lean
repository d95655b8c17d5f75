import Grid0Relay.Theorems.FrameDecoding

/-!
# From the handshake to the frames

The line splitter keeps what follows the handshake in its chunk, and the frame decoder
never sees it. When a chunk ends with the request, and no field of a frame is cut, how the
stream was cut does not show: the same frames are handed on and the same is written.
-/

namespace Grid0Relay.Rpc

open Lib Lib.Exec Lib.Stream

/-! ## The lines of the request -/

def Head.start : Head := ⟨.doHeader, [], []⟩

/-- The head some lines lead to. -/
def headAfter (lines : List Bytes) : Head :=
  lines.foldl (fun h line => (headerLine h line).1) .start

/-- A line, with what is written in answer. -/
def answerStep (host : Host) (h : Head) (line : Bytes) : Head × List Bytes :=
  ((headerLine h line).1, answerOf host (headerLine h line).2)

theorem run_answerStep (host : Host) (h : Head) (lines : List Bytes) :
    (Stream.run (answerStep host) h lines).1 =
      lines.foldl (fun h line => (headerLine h line).1) h := by
  induction lines generalizing h with
  | nil => rfl
  | cons line lines ih => exact ih _

theorem run_answerStep_start (host : Host) (lines : List Bytes) :
    (Stream.run (answerStep host) .start lines).1 = headAfter lines := run_answerStep host _ lines

/-- Behind the request no line is read as a header. -/
theorem headerLine_stays {h : Head} (hstate : ¬ h.wsState.Requests) (line : Bytes) :
    (headerLine h line).1 = h := by
  unfold headerLine
  cases hcase : h.wsState with
  | doHeader => exact absurd (Or.inl hcase) hstate
  | waitHttp => exact absurd (Or.inr hcase) hstate
  | _ => rfl

theorem requests_of_headerLine {h : Head} {line : Bytes}
    (hnext : (headerLine h line).1.wsState.Requests) : h.wsState.Requests := by
  by_contra hstate
  rw [headerLine_stays hstate] at hnext
  exact hstate hnext

theorem requests_of_foldl {h : Head} (lines : List Bytes)
    (hend : (lines.foldl (fun h line => (headerLine h line).1) h).wsState.Requests) :
    h.wsState.Requests := by
  induction lines generalizing h with
  | nil => exact hend
  | cons line lines ih => exact requests_of_headerLine (ih hend)

/-- Nothing is answered as long as the request goes on. -/
theorem headerLine_silent {h : Head} {line : Bytes}
    (hnext : (headerLine h line).1.wsState.Requests) : (headerLine h line).2 = .nothing := by
  have hstate := requests_of_headerLine hnext
  revert hnext
  unfold headerLine
  rcases hstate with hstate | hstate
  · simp only [hstate]
    split
    · rintro (hdead | hdead) <;> cases hdead
    · exact fun _ => rfl
  · simp only [hstate]
    split
    · split
      · rintro (hdead | hdead) <;> cases hdead
      · exact fun _ => rfl
    · split
      · rintro (hends | hends) <;> cases hends
      · rintro (hdead | hdead) <;> cases hdead

theorem run_answerStep_silent (host : Host) {h : Head} (lines : List Bytes)
    (hend : (lines.foldl (fun h line => (headerLine h line).1) h).wsState.Requests) :
    (Stream.run (answerStep host) h lines).2 = [] := by
  induction lines generalizing h with
  | nil => rfl
  | cons line lines ih =>
    have hnothing := headerLine_silent (requests_of_foldl lines hend)
    have hfirst : (answerStep host h line).2 = [] := by rw [answerStep, hnothing]; rfl
    have hrest : (Stream.run (answerStep host) (headerLine h line).1 lines).2 = [] := ih hend
    exact List.append_eq_nil_iff.mpr ⟨hfirst, hrest⟩

/-- A valid upgrade request: header lines, and the empty line that ends them. -/
structure Upgrade (request : Bytes) (lines : List Bytes) : Prop where
  split : linesOf [] request = lines ++ [[]]
  whole : unfinished request = []
  headers : (headAfter lines).wsState = .waitHttp
  asks : upgrades (headAfter lines).path (headAfter lines).headers = true

/-- The answer to it. -/
def switchReply (host : Host) (lines : List Bytes) : Bytes :=
  httpResp101Part ++ host.accept (header (headAfter lines).headers "sec-websocket-key") ++
    text "\r\n\r\n"

variable {host : Host} {token : Bytes} {request : Bytes} {lines : List Bytes} {w : World Ws}

/-- Before its end the request is read as one. -/
theorem Upgrade.requests (h : Upgrade request lines) {past rest : Bytes} (hrest : rest ≠ [])
    (hsplit : past ++ rest = request) : (headAfter (linesOf [] past)).wsState.Requests := by
  subst hsplit
  have hemits : ∀ (cur : Bytes) (b : UInt8), (lineStep 10 cur b).1 = [] →
      (lineStep 10 cur b).2 ≠ [] := by
    intro cur b hdone
    unfold lineStep at hdone ⊢
    split
    · simp
    · rename_i hb
      rw [if_neg hb] at hdone
      simp at hdone
  have hraw := run_left_prefix (P := (· = [])) hemits [] past hrest h.whole
  have hprefix : linesOf [] past <+: (linesOf [] (past ++ rest)).dropLast := by
    rw [linesOf, linesOf, ← List.map_dropLast]
    exact hraw.map chomped
  rw [h.split, List.dropLast_concat] at hprefix
  obtain ⟨more, rfl⟩ := hprefix
  have hend := h.headers
  rw [headAfter, List.foldl_append] at hend
  exact requests_of_foldl more (Or.inr hend)

theorem Upgrade.headAfter_request (h : Upgrade request lines) :
    headAfter (linesOf [] request) = { headAfter lines with wsState := .waitDecodeHeader } ∧
      (headerLine (headAfter lines) []).2 =
        .switching (header (headAfter lines).headers "sec-websocket-key") := by
  have hline : headerLine (headAfter lines) [] =
      ({ headAfter lines with wsState := .waitDecodeHeader },
        .switching (header (headAfter lines).headers "sec-websocket-key")) := by
    simp only [headerLine, h.headers]
    rw [if_neg (by simp), if_pos h.asks]
  rw [h.split, headAfter, List.foldl_append]
  exact ⟨congrArg Prod.fst hline, congrArg Prod.snd hline⟩

/-! ## Chunks of the request -/

/-- These lines were seen, and answered. -/
structure Answering (host : Host) (token : Bytes) (lines : List Bytes) (c : Connection Ws) :
    Prop where
  head : c.inner.head = headAfter lines
  written : c.written = (Stream.run (answerStep host) .start lines).2
  empty : c.inner.bl = .empty
  silent : Silent token c

/-- A connection that has received this part of its request. -/
structure Requesting (host : Host) (token stream : Bytes) (c : Connection Ws) : Prop where
  held : c.buffer = unfinished stream
  answering : Answering host token (linesOf [] stream) c

theorem wsOnLine_answering (host : Host) (token : Bytes) (seen : List Bytes) (line : Bytes)
    (w : World Ws) (h : Answering host token seen w.conn) :
    ∃ w', wsOnLine host line w = .ok () w' ∧ Answering host token (seen ++ [line]) w'.conn := by
  obtain ⟨w', hrun, hhead, hbl, hsame, hwritten⟩ := wsOnLine_head host line w
  refine ⟨w', hrun, ?_, ?_, hbl.trans h.empty, h.silent.of_unframed hsame⟩
  · rw [hhead, h.head, headAfter, headAfter, List.foldl_append]
    rfl
  · rw [hwritten, h.written, h.head, ← run_answerStep_start host, run_append]
    simp only [Stream.run, answerStep, List.append_nil]

/-- In the request a chunk goes to the line splitter. -/
theorem wsOnData_requesting {stream : Bytes} (chunk : Chunk)
    (h : Requesting host token stream w.conn)
    (hreq : (headAfter (linesOf [] stream)).wsState.Requests) :
    ∃ w', wsOnData host token chunk w = .ok () w' ∧
      Requesting host token (stream ++ chunk.bytes) w'.conn := by
  have hstate : w.conn.inner.wsState.Requests := by
    rw [← h.answering.head] at hreq
    exact hreq
  have hfeed : wsOnData host token chunk w = feed host (wsOnLine host) chunk.bytes w := by
    rw [wsOnData, bind_ok (getConn_apply w)]
    rcases hstate with hstate | hstate <;> rw [hstate]
  obtain ⟨w', hrun, hheld, hlines⟩ := feed_lines host (wsOnLine_answering host token)
    (fun _ _ buffer hI => ⟨hI.head, hI.written, hI.empty, hI.silent.hold buffer⟩)
    h.held h.answering
  exact ⟨w', hfeed.trans hrun, hheld, hlines⟩

/-- The chunks of one connection. When it is closed no more of them arrive. -/
def wsAll (host : Host) (token : Bytes) : List Chunk → RpcM Ws Unit
  | [] => pure ()
  | chunk :: rest => do
    let c ← getConn
    if c.inner.closed then pure ()
    else do
      wsOnData host token chunk
      wsAll host token rest

theorem wsAll_cons {chunk : Chunk} {w' : World Ws} (hopen : w.conn.inner.closed = false)
    (hrun : wsOnData host token chunk w = .ok () w') (rest : List Chunk) :
    wsAll host token (chunk :: rest) w = wsAll host token rest w' := by
  rw [wsAll, bind_ok (getConn_apply w), hopen, if_neg (by simp), bind_ok hrun]

/-- The chunks of the request, with more to come. -/
theorem wsAll_request (hup : Upgrade request lines) (hand : List Chunk) {past : Bytes}
    (hsplit : past ++ streamOf hand = request) (h : Requesting host token past w.conn) :
    ∃ w', Requesting host token request w'.conn ∧
      ∀ rest, wsAll host token (hand ++ rest) w = wsAll host token rest w' := by
  induction hand generalizing past w with
  | nil =>
    have hall : past ++ streamOf [] = past := List.append_nil past
    rw [hall] at hsplit
    subst hsplit
    exact ⟨w, h, fun _ => rfl⟩
  | cons chunk hand ih =>
    have hstream : streamOf (chunk :: hand) = chunk.bytes ++ streamOf hand := by simp [streamOf]
    rw [hstream] at hsplit
    have hmore : chunk.bytes ++ streamOf hand ≠ [] :=
      List.append_ne_nil_of_left_ne_nil chunk.nonempty _
    obtain ⟨w₁, hrun, h₁⟩ := wsOnData_requesting chunk h (hup.requests hmore hsplit)
    obtain ⟨w₂, h₂, hrest⟩ := ih (by rw [List.append_assoc, hsplit]) h₁
    refine ⟨w₂, h₂, fun rest => ?_⟩
    rw [List.cons_append, wsAll_cons h.answering.silent.closed hrun, hrest]

/-- With the end of the request the connection is upgraded, and that is answered. -/
theorem Requesting.upgraded (hup : Upgrade request lines) {c : Connection Ws}
    (h : Requesting host token request c) :
    Upgraded token c ∧ c.written = [switchReply host lines] := by
  obtain ⟨hhead, hreply⟩ := hup.headAfter_request
  have hstate : c.inner.head.wsState = .waitDecodeHeader := by rw [h.answering.head, hhead]
  refine ⟨⟨hstate, h.answering.empty, h.answering.silent⟩, ?_⟩
  have hsilent := run_answerStep_silent host lines (Or.inr hup.headers)
  rw [← run_answerStep_start host] at hreply
  simp only [h.answering.written, hup.split, run_append, hsilent, Stream.run, answerStep, hreply,
    List.nil_append, List.append_nil]
  rw [run_answerStep_start]
  rfl

/-! ## Chunks of the frames -/

/-- Every chunk starts with a field. -/
def Whole : Stage × Bytes → List Chunk → Prop
  | _, [] => True
  | s, chunk :: rest => s.2 = [] ∧ Whole (Stream.run Stage.step s chunk.bytes).1 rest

instance decidableWhole : ∀ (s : Stage × Bytes) (chunks : List Chunk), Decidable (Whole s chunks)
  | _, [] => .isTrue trivial
  | s, chunk :: rest =>
    have := decidableWhole (Stream.run Stage.step s chunk.bytes).1 rest
    inferInstanceAs (Decidable (s.2 = [] ∧ Whole _ rest))

/-- Between two frames the last one has been handed on. -/
theorem step_header_emits (s : Stage × Bytes) (b : UInt8)
    (h : (Stage.step s b).1 = (.header, [])) : (Stage.step s b).2 ≠ [] := by
  have hbody : ∀ opcode length key, (Stage.body opcode length key).1 = .header →
      (Stage.body opcode length key).2 ≠ [] := by
    intro opcode length key
    unfold Stage.body
    split_ifs <;> simp
  have hlength : ∀ mask opcode length, (Stage.afterLength mask opcode length).1 = .header →
      (Stage.afterLength mask opcode length).2 ≠ [] := by
    intro mask opcode length
    unfold Stage.afterLength
    split_ifs
    · simp
    · exact hbody opcode length none
  unfold Stage.step fieldStep at h ⊢
  split_ifs at h ⊢
  · simp at h
  · have hnext : (Stage.next s.1 (s.2 ++ [b])).1 = .header := congrArg Prod.fst h
    revert hnext
    cases s.1 with
    | header =>
      simp only [Stage.next]
      split_ifs
      · simp
      · simp
      · exact hlength _ _ _
    | length16 mask opcode | length64 mask opcode => exact hlength _ _ _
    | maskKey opcode length => exact hbody _ _ _
    | payload opcode length key => simp [Stage.next]

/-- The chunks of whole frames, none of them cut inside a field or sent behind a close. -/
theorem wsAll_frames (kind : host.Kind) {pre : List Bytes} (past : Bytes) (chunks : List Chunk)
    (hshort : ShortStream (past ++ streamOf chunks))
    (hwhole : Whole (Stream.run Stage.step (.header, []) past).1 chunks)
    (hend : (Stream.run Stage.step (.header, []) (past ++ streamOf chunks)).1 = (.header, []))
    (hlast : ∀ f ∈ (Stream.run Stage.step (.header, []) (past ++ streamOf chunks)).2.dropLast,
      f.opcode ≠ 8)
    (h : InFrames host token pre (Stream.run Stage.step (.header, []) past).2
      (Stream.run Stage.step (.header, []) past).1.1
      (Stream.run Stage.step (.header, []) past).1.2 w.conn) :
    ∃ w', wsAll host token chunks w = .ok () w' ∧
      InFrames host token pre (Stream.run Stage.step (.header, []) (past ++ streamOf chunks)).2
        .header [] w'.conn := by
  induction chunks generalizing past w with
  | nil =>
    have hnone : past ++ streamOf [] = past := List.append_nil past
    rw [hnone] at hend ⊢
    rw [hend] at h
    exact ⟨w, rfl, h⟩
  | cons chunk rest ih =>
    have hstream : streamOf (chunk :: rest) = chunk.bytes ++ streamOf rest := by simp [streamOf]
    rw [hstream] at hshort hend hlast ⊢
    obtain ⟨hgot, hrest⟩ := hwhole
    -- frames are still to come, so none of those so far is a close
    have hopen : w.conn.inner.closed = false := by
      have hsofar := run_left_prefix (P := (· = (Stage.header, []))) step_header_emits
        (.header, []) past (List.append_ne_nil_of_left_ne_nil chunk.nonempty _) hend
      rw [h.handed.closed, List.any_eq_false]
      intro f hf
      simpa using hlast f (hsofar.subset hf)
    have hat : (Stream.run Stage.step (.header, []) past).1 =
        ((Stream.run Stage.step (.header, []) past).1.1, []) := Prod.ext rfl hgot
    have hlong : NoLong (Stream.run Stage.step (.header, []) past).1.1 chunk.bytes := by
      have hfield := h.short
      rw [hgot] at hfield
      rw [← List.append_assoc] at hshort
      exact hshort.left.noLong hat hfield
    have hstart : InFrames host token pre (Stream.run Stage.step (.header, []) past).2
        (Stream.run Stage.step (.header, []) past).1.1 [] w.conn := by
      rw [hgot] at h
      exact h
    have hpast : Stream.run Stage.step (.header, []) (past ++ chunk.bytes) =
        ((Stream.run Stage.step ((Stream.run Stage.step (.header, []) past).1.1, [])
            chunk.bytes).1,
          (Stream.run Stage.step (.header, []) past).2 ++
            (Stream.run Stage.step ((Stream.run Stage.step (.header, []) past).1.1, [])
              chunk.bytes).2) := by
      rw [run_append, ← hat]
    have hdata := wsOnData_frames host chunk hstart hlong
    cases hrun : wsOnData host token chunk w with
    | ok a w₁ =>
      rw [hrun] at hdata
      rw [← List.append_assoc] at hshort hend hlast ⊢
      have hwhole₁ : Whole (Stream.run Stage.step (.header, []) (past ++ chunk.bytes)).1 rest := by
        rw [run_append]
        exact hrest
      obtain ⟨w₂, hall, h₂⟩ := ih _ hshort hwhole₁ hend hlast (by rw [hpast]; exact hdata)
      exact ⟨w₂, by rw [wsAll_cons hopen hrun, hall], h₂⟩
    | error e w₁ =>
      rw [hrun] at hdata
      exact absurd kind hdata.1

/-! ## Two ways to cut a stream -/

/-- A request and frames behind it, cut where the request ends and not inside a field. -/
def Cut (request : Bytes) (frames : List Frame) (chunks : List Chunk) : Prop :=
  ∃ hand rest, chunks = hand ++ rest ∧ streamOf hand = request ∧
    streamOf rest = frames.flatMap Frame.encode ∧ Whole (.header, []) rest

/-- What is written to a client: the answer to its request, then the replies to its texts. -/
def writtenTo (host : Host) (token : Bytes) (lines : List Bytes) (frames : List Frame)
    (answers : List Bytes) : List Bytes :=
  switchReply host lines ::
    (repliesTo token (textsOf (frames.map Frame.received)) answers).flatMap wire

theorem wsAll_cut (token : Bytes) (kind : host.Kind) (hup : Upgrade request lines) {frames : List Frame}
    (hform : ∀ f ∈ frames, f.form ≠ .long) (hlast : ∀ f ∈ frames.dropLast, f.opcode ≠ 8)
    {chunks : List Chunk} (hcut : Cut request frames chunks) (asked : Nat) :
    ∃ w', wsAll host token chunks ⟨.init Ws.init, asked⟩ = .ok () w' ∧
      InFrames host token [switchReply host lines] (frames.map Frame.received) .header []
        w'.conn := by
  obtain ⟨hand, rest, rfl, hhand, hrest, hwhole⟩ := hcut
  have hinit : Requesting host token [] (Connection.init Ws.init) :=
    ⟨rfl, rfl, rfl, rfl, Gated.init _ _, rfl, rfl⟩
  obtain ⟨w₁, h₁, hrun⟩ := wsAll_request (w := ⟨.init Ws.init, asked⟩) hup hand hhand hinit
  obtain ⟨hupgraded, hwritten⟩ := h₁.upgraded hup
  have hframes := hupgraded.inFrames host
  rw [hwritten] at hframes
  have hleads := leads_frames hform
  obtain ⟨out, hreads, hout⟩ := hleads.reads
  rw [List.nil_append] at hout
  rw [← hout, ← hrest] at hreads
  have hnil : Stream.run Stage.step (Stage.header, []) ([] ++ streamOf rest) =
      ((.header, []), frames.map Frame.received) := hreads
  obtain ⟨w₂, hall, h₂⟩ := wsAll_frames kind [] rest
    (by rw [List.nil_append, hrest]; exact hleads.short) hwhole (congrArg Prod.fst hnil)
    (by
      rw [hnil, ← List.map_dropLast]
      intro f hf
      obtain ⟨g, hg, rfl⟩ := List.mem_map.mp hf
      intro hclose
      have hvalue : g.opcode.val % 256 = 8 := congrArg UInt8.toNat hclose
      have hsmall := g.opcode.isLt
      have height : g.opcode.val = 8 := by omega
      exact hlast g hg (Fin.ext height))
    hframes
  rw [hnil] at h₂
  exact ⟨w₂, (hrun rest).trans hall, h₂⟩

/-- **The handshake and the frames.** However a stream is cut, if a chunk ends with the request
and none inside a field, the same frames are handed on and the same messages passed on, and
what is written is the same for the same answers to them. No length is a 64-bit one, and only
the last frame may be a close. -/
theorem handshake_boundary {host₁ host₂ : Host} (token : Bytes) (kind₁ : host₁.Kind)
    (kind₂ : host₂.Kind) (haccept : host₁.accept = host₂.accept) (hup : Upgrade request lines)
    {frames : List Frame} (hform : ∀ f ∈ frames, f.form ≠ .long)
    (hlast : ∀ f ∈ frames.dropLast, f.opcode ≠ 8) {chunks₁ chunks₂ : List Chunk}
    (hcut₁ : Cut request frames chunks₁) (hcut₂ : Cut request frames chunks₂)
    (asked₁ asked₂ : Nat) :
    ∃ w₁ w₂ answers₁ answers₂,
      wsAll host₁ token chunks₁ ⟨.init Ws.init, asked₁⟩ = .ok () w₁ ∧
      wsAll host₂ token chunks₂ ⟨.init Ws.init, asked₂⟩ = .ok () w₂ ∧
      w₁.conn.inner.framed = frames.map Frame.received ∧
      w₂.conn.inner.framed = frames.map Frame.received ∧
      w₁.conn.messages = w₂.conn.messages ∧
      Answered host₁ w₁.conn.messages answers₁ ∧ Answered host₂ w₂.conn.messages answers₂ ∧
      w₁.conn.written = writtenTo host₁ token lines frames answers₁ ∧
      w₂.conn.written = writtenTo host₁ token lines frames answers₂ := by
  obtain ⟨w₁, hrun₁, h₁⟩ := wsAll_cut token kind₁ hup hform hlast hcut₁ asked₁
  obtain ⟨w₂, hrun₂, h₂⟩ := wsAll_cut token kind₂ hup hform hlast hcut₂ asked₂
  obtain ⟨answers₁, hanswers₁, hwritten₁⟩ := h₁.handed.replied
  obtain ⟨answers₂, hanswers₂, hwritten₂⟩ := h₂.handed.replied
  have hreply : switchReply host₂ lines = switchReply host₁ lines := by
    rw [switchReply, switchReply, haccept]
  rw [hreply] at hwritten₂
  exact ⟨w₁, w₂, answers₁, answers₂, hrun₁, hrun₂, h₁.handed.framed, h₂.handed.framed,
    h₁.handed.gated.messages.trans h₂.handed.gated.messages.symm, hanswers₁, hanswers₂,
    hwritten₁, hwritten₂⟩

theorem close_lt : 8 < 16 := by decide

/-- A text that is the token, and a close. -/
def greeting : List Frame :=
  [{ maskedText with
      payload := text "ab", form := .short, fits := (by decide : (text "ab").length < 126) },
    { maskedText with
      opcode := ⟨8, close_lt⟩, payload := [], form := .short, fits := (by decide : 0 < 126) }]

/-- The same fields in two chunks and in more. -/
def greetingFields : List Chunk :=
  [⟨[0x81, 0x82], by decide, by decide⟩, ⟨[7, 1, 9, 200], by decide, by decide⟩,
    ⟨[102, 99, 0x88, 0x80], by decide, by decide⟩, ⟨[7, 1, 9, 200], by decide, by decide⟩]

def greetingChunk : Chunk := ⟨streamOf greetingFields, by decide, by decide⟩

def handshakeLines : List Bytes := (linesOf [] handshake.bytes).dropLast

theorem handshake_boundary_greeting :
    Upgrade handshake.bytes handshakeLines ∧
    Cut handshake.bytes greeting (singles handshake.bytes ++ greetingFields) ∧
    Cut handshake.bytes greeting [handshake, greetingChunk] ∧
    ∃ w₁ w₂,
      wsAll (quietHost 0) (text "ab") (singles handshake.bytes ++ greetingFields)
        ⟨.init Ws.init, 0⟩ = .ok () w₁ ∧
      wsAll (quietHost 98) (text "ab") [handshake, greetingChunk] ⟨.init Ws.init, 0⟩ = .ok () w₂ ∧
      w₁.conn.inner.framed = [⟨1, text "ab"⟩, ⟨8, []⟩] ∧
      w₂.conn.inner.framed = [⟨1, text "ab"⟩, ⟨8, []⟩] := by
  have hup : Upgrade handshake.bytes handshakeLines :=
    ⟨by decide, by decide, by decide, by decide⟩
  have hcut₁ : Cut handshake.bytes greeting (singles handshake.bytes ++ greetingFields) :=
    ⟨singles handshake.bytes, greetingFields, rfl, streamOf_singles _, by decide,
      by decide⟩
  have hcut₂ : Cut handshake.bytes greeting [handshake, greetingChunk] :=
    ⟨[handshake], [greetingChunk], rfl, streamOf_singleton _, by decide,
      by decide⟩
  have hkind : ∀ stale, (quietHost stale).Kind := fun _ => ⟨fun _ => Nat.one_pos, fun _ => rfl⟩
  obtain ⟨w₁, w₂, -, -, hrun₁, hrun₂, hframed₁, hframed₂, -⟩ :=
    handshake_boundary (text "ab") (hkind 0) (hkind 98) rfl hup (by decide)
      (by decide) hcut₁ hcut₂ 0 0
  exact ⟨hup, hcut₁, hcut₂, w₁, w₂, hrun₁, hrun₂, hframed₁, hframed₂⟩

/-- A text frame in the chunk of the handshake. -/
def hasty : Chunk := ⟨handshake.bytes ++ [0x81, 0x01, 115], by simp, by decide +kernel⟩

/-- The frame is handed on when it has a chunk of its own, and lost in the chunk of the
handshake. -/
theorem hasty_frame_lost :
    streamOf [hasty] = streamOf [handshake, ⟨[0x81, 0x01, 115], by decide, by decide⟩] ∧
    (after (wsAll (quietHost 0) [] [hasty] ⟨.init Ws.init, 0⟩)).conn.inner.framed = [] ∧
    (after (wsAll (quietHost 0) [] [handshake, ⟨[0x81, 0x01, 115], by decide, by decide⟩]
      ⟨.init Ws.init, 0⟩)).conn.inner.framed = [⟨1, [115]⟩] := by
  decide +kernel

end Grid0Relay.Rpc
