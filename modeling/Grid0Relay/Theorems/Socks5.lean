import Grid0Relay.Relay.Socks5

/-!
# The SOCKS5 proxy

A datagram comes back out of the handler as `send` packed it. One that is shorter than the
header is handled only when its address type is there and is not that of IPv4. The handshake
takes one event of data for one message, so it depends on how the stream was cut.
-/

namespace Grid0Relay.Socks5

open Lib Lib.Exec

/-! ## Packing -/

/-- Writes that fit one after the other. -/
theorem Packer.write_fits {p : Packer} {length : Nat} {data : Bytes} (hp : p = ⟨length, data⟩)
    {v : Bytes} (h : data.length + v.length ≤ length) : p.write v = ⟨length, data ++ v⟩ := by
  subst hp
  rw [Packer.write, if_neg (Nat.not_lt.mpr h)]

/-- The header and the payload fill the datagram. -/
theorem packDatagram_eq (addr : Ip4) (port : Nat) (dat : Bytes) :
    packDatagram addr port dat =
      ⟨10 + dat.length, [0, 0, 0, 1] ++ addr.toList ++ Bytes.bytes16 port ++ dat⟩ := by
  have haddr : addr.toList.length = 4 := Vector.length_toList
  have hhead : (((Packer.new (10 + dat.length)).write [0, 0]).write [0]).write [1] =
      ⟨10 + dat.length, [0, 0, 0, 1]⟩ :=
    Packer.write_fits (Packer.write_fits (Packer.write_fits rfl (by simp; omega)) (by simp; omega))
      (by simp; omega)
  refine Packer.write_fits (Packer.write_fits (Packer.write_fits hhead ?_) ?_) ?_
  · simp [haddr]
    omega
  · simp [haddr]
  · simp [haddr]

/-! ## Unpacking -/

section Read

variable {u : Unpacker} {size : Nat}

theorem readAny_ok (h : u.offset + size ≤ u.data.length) :
    readAny size u = .ok (some (u.data.slice u.offset size)) { u with offset := u.offset + size } := by
  rw [readAny, bind_ok (get_apply u), if_neg (by omega)]
  rfl

theorem readAny_short (h : u.data.length < u.offset + size) : readAny size u = .ok none u := by
  rw [readAny, bind_ok (get_apply u), if_pos (by omega)]
  rfl

end Read

variable {datagram : Bytes}

/-- The first three fields. They are read from four bytes on; below that the address type is
missing, though a single byte is taken for the fragment number. -/
theorem atyp_short (h : datagram.length < 4) :
    receive datagram = .error .uninitialised := by
  have hrun : ∃ u, udpDataEvent ⟨datagram, 0⟩ = .error .uninitialised u := by
    unfold udpDataEvent
    by_cases h2 : 2 ≤ datagram.length
    · rw [bind_ok (readAny_ok (u := ⟨datagram, 0⟩) (by simpa using h2))]
      by_cases h3 : 3 ≤ datagram.length
      · rw [bind_ok (readAny_ok (u := ⟨datagram, 0 + 2⟩) (by simpa using h3)),
          bind_ok (readAny_short (u := ⟨datagram, 0 + 2 + 1⟩) (by simpa using h))]
        exact ⟨_, rfl⟩
      · rw [bind_ok (readAny_short (u := ⟨datagram, 0 + 2⟩) (by simpa using h3)),
          bind_ok (readAny_short (u := ⟨datagram, 0 + 2⟩) (by simpa using h3))]
        exact ⟨_, rfl⟩
    · rw [bind_ok (readAny_short (u := ⟨datagram, 0⟩) (by simpa using h2))]
      by_cases h1 : 1 ≤ datagram.length
      · rw [bind_ok (readAny_ok (u := ⟨datagram, 0⟩) (by simpa using h1)),
          bind_ok (readAny_short (u := ⟨datagram, 0 + 1⟩) (by simpa using h2))]
        exact ⟨_, rfl⟩
      · rw [bind_ok (readAny_short (u := ⟨datagram, 0⟩) (by simpa using h1)),
          bind_ok (readAny_short (u := ⟨datagram, 0⟩) (by simpa using h1))]
        exact ⟨_, rfl⟩
  obtain ⟨u, hu⟩ := hrun
  rw [receive, hu]

theorem udpDataEvent_atyp (h : 4 ≤ datagram.length) :
    udpDataEvent ⟨datagram, 0⟩ = behindAtyp (datagram.slice 3 1) ⟨datagram, 4⟩ := by
  unfold udpDataEvent
  rw [bind_ok (readAny_ok (u := ⟨datagram, 0⟩) (by simp; omega)),
    bind_ok (readAny_ok (u := ⟨datagram, 0 + 2⟩) (by simp; omega)),
    bind_ok (readAny_ok (u := ⟨datagram, 0 + 2 + 1⟩) (by simp; omega))]
  rfl

theorem byte_slice_atyp : (datagram.slice 3 1).byte 0 = datagram.byte 3 := Bytes.byte_slice (by omega)

theorem receive_other (h : 4 ≤ datagram.length) (hatyp : datagram.byte 3 ≠ 1) :
    receive datagram = .ok none := by
  rw [receive, udpDataEvent_atyp h, behindAtyp, byte_slice_atyp, if_pos hatyp]
  rfl

theorem receive_cut (h : 4 ≤ datagram.length) (hatyp : datagram.byte 3 = 1)
    (hshort : datagram.length < 10) : receive datagram = .error .uninitialised := by
  rw [receive, udpDataEvent_atyp h, behindAtyp, byte_slice_atyp, if_neg (not_not.mpr hatyp)]
  by_cases haddr : 8 ≤ datagram.length
  · rw [bind_ok (readAny_ok (u := ⟨datagram, 4⟩) (by simpa using haddr)),
      bind_ok (readAny_short (u := ⟨datagram, 4 + 4⟩) (by simpa using hshort))]
    rfl
  · -- the address is missing, whatever the port is
    by_cases hport : 6 ≤ datagram.length
    · rw [bind_ok (readAny_short (u := ⟨datagram, 4⟩) (by simpa using haddr)),
        bind_ok (readAny_ok (u := ⟨datagram, 4⟩) (by simpa using hport))]
      rfl
    · rw [bind_ok (readAny_short (u := ⟨datagram, 4⟩) (by simpa using haddr)),
        bind_ok (readAny_short (u := ⟨datagram, 4⟩) (by simpa using hport))]
      rfl

theorem receive_whole (h : 10 ≤ datagram.length) (hatyp : datagram.byte 3 = 1) :
    receive datagram = .ok (some ⟨datagram.vecAt 4 4, datagram.net16 8,
      datagram.slice 10 ((datagram.length - 10) % 65536)⟩) := by
  have hlen : (datagram.length + 65536 - 10) % 65536 = (datagram.length - 10) % 65536 := by omega
  have hinside : ¬ ((datagram.length - 10) % 65536 ≠ 0 ∧
      10 + (datagram.length - 10) % 65536 > datagram.length) := by
    have := Nat.mod_le (datagram.length - 10) 65536
    omega
  rw [receive, udpDataEvent_atyp (by omega), behindAtyp, byte_slice_atyp,
    if_neg (not_not.mpr hatyp),
    bind_ok (readAny_ok (u := ⟨datagram, 4⟩) (by simp; omega)),
    bind_ok (readAny_ok (u := ⟨datagram, 4 + 4⟩) (by simp; omega)),
    bind_ok (get_apply _)]
  simp only [useField, pure_bind, udpHeaderSize, hlen, if_neg hinside, pure_apply]
  rw [Bytes.net16_slice (by omega), show Bytes.vecAt 4 (datagram.slice 4 4) 0 = datagram.vecAt 4 4
    from Bytes.vecAt_eq_iff.mpr fun k hk => by rw [Bytes.byte_slice (by omega), Nat.zero_add]]

/-- The relay's callback is this handler in front of `send_udp_ex`, so what is shown about
`receive` holds of it; what is not there it reads out of bounds. -/
theorem socks5ProxyRecv_eq (env : Env) (src : Ip4) (srcport : Nat) (datagram : Bytes) :
    socks5ProxyRecv env src srcport datagram =
      match receive datagram with
      | .ok none => pure ()
      | .ok (some incoming) => do
        let _ ← sendUdpEx env incoming.fromIp incoming.fromPort src srcport [incoming.payload]
        let _ ← timeNull env
        pure ()
      | .error _ => throw .readBounds := by
  unfold socks5ProxyRecv
  by_cases hfour : datagram.length < 4
  · rw [atyp_short hfour, readByte, if_neg (by omega)]
    rfl
  rw [readByte_ok (by omega), pure_bind]
  by_cases hatyp : datagram.byte 3 = 1
  swap
  · rw [receive_other (by omega) hatyp, if_pos hatyp]
  rw [if_neg (not_not.mpr hatyp)]
  by_cases hwhole : 10 ≤ datagram.length
  · rw [receive_whole hwhole hatyp, readIp4_ok (by omega), pure_bind, readNet16_ok (by omega),
      pure_bind, readRange_ok ?_, pure_bind]
    have := Nat.mod_le (datagram.length - 10) 65536
    omega
  · rw [receive_cut (by omega) hatyp (by omega)]
    refine (access_readIp4 datagram 4).bind fun fromIp => ?_
    rw [readNet16, if_neg (by omega)]
    rfl

/-- A datagram is handled as it should be: one that `send` packed comes back out, nothing is
read that is not there, and one without a whole header is dropped. No datagram of UDP has a
payload of 65536 bytes. -/
structure Handled (datagram : Bytes) : Prop where
  packed : ∀ addr port dat, port < 65536 → dat.length < 65536 →
    datagram = (packDatagram addr port dat).data → receive datagram = .ok (some ⟨addr, port, dat⟩)
  safe : ∃ incoming, receive datagram = .ok incoming
  dropped : datagram.length < 10 → receive datagram = .ok none

theorem receive_packed (addr : Ip4) {port : Nat} (hport : port < 65536) {dat : Bytes}
    (hdat : dat.length < 65536) :
    receive (packDatagram addr port dat).data = .ok (some ⟨addr, port, dat⟩) := by
  have haddr : addr.toList.length = 4 := Vector.length_toList
  have hshape : (packDatagram addr port dat).data =
      [0, 0, 0, 1] ++ (addr.toList ++ (Bytes.bytes16 port ++ dat)) := by
    rw [packDatagram_eq, List.append_assoc, List.append_assoc]
  have hlen : (packDatagram addr port dat).data.length = 10 + dat.length := by
    rw [hshape]
    simp [haddr]
    omega
  have hip : (packDatagram addr port dat).data.vecAt 4 4 = addr := by
    rw [hshape]
    exact Bytes.vecAt_append_at addr _ rfl
  have hrest : (packDatagram addr port dat).data =
      ([0, 0, 0, 1] ++ addr.toList) ++ (Bytes.bytes16 port ++ dat) := by
    rw [hshape, List.append_assoc]
  have hnet : (packDatagram addr port dat).data.net16 8 = port := by
    rw [hrest, Bytes.net16_append_right (by simp [haddr]), List.length_append, haddr]
    rw [Bytes.net16_append_left (by simp)]
    exact (Bytes.net16_bytes16 port).trans (Nat.mod_eq_of_lt hport)
  have hpayload : (packDatagram addr port dat).data.slice 10 dat.length = dat := by
    rw [hrest, ← List.append_assoc, Bytes.slice, List.drop_left' (by simp [haddr]), List.take_length]
  have hatyp : (packDatagram addr port dat).data.byte 3 = 1 := by
    rw [hshape]
    rfl
  rw [receive_whole (by omega) hatyp, hlen, hip, hnet, Nat.add_sub_cancel_left,
    Nat.mod_eq_of_lt hdat, hpayload]

/-- **Datagrams.** The handler does right by a datagram exactly when it holds a whole header, or
an address type that is not that of IPv4. -/
theorem udp_handled_iff (datagram : Bytes) :
    Handled datagram ↔
      10 ≤ datagram.length ∨ 4 ≤ datagram.length ∧ datagram.byte 3 ≠ 1 := by
  constructor
  · intro h
    obtain ⟨incoming, hsafe⟩ := h.safe
    by_contra hcut
    rw [not_or, not_and_or, not_not, Nat.not_le, Nat.not_le] at hcut
    have herror : receive datagram = .error .uninitialised := by
      by_cases hfour : datagram.length < 4
      · exact atyp_short hfour
      · exact receive_cut (by omega) (hcut.2.resolve_left hfour) hcut.1
    rw [herror] at hsafe
    cases hsafe
  · intro h
    refine ⟨?_, ?_, ?_⟩
    · rintro addr port dat hport hdat rfl
      exact receive_packed addr hport hdat
    · by_cases hatyp : datagram.byte 3 = 1
      · exact ⟨_, receive_whole (h.resolve_right fun h => h.2 hatyp) hatyp⟩
      · exact ⟨_, receive_other (by omega) hatyp⟩
    · intro hshort
      obtain ⟨hfour, hatyp⟩ := h.resolve_left (by omega)
      exact receive_other hfour hatyp

theorem udp_handled_iff_packed :
    receive (packDatagram (ip4 8 8 8 8) 53 [1, 2, 3]).data = .ok (some ⟨ip4 8 8 8 8, 53, [1, 2, 3]⟩) :=
  ((udp_handled_iff (packDatagram (ip4 8 8 8 8) 53 [1, 2, 3]).data).mpr
    (Or.inl (by decide))).packed (ip4 8 8 8 8) 53 [1, 2, 3] (by decide) (by decide) rfl

/-- Four bytes that say IPv4 and end there. -/
theorem short_datagram_used :
    receive [0, 0, 0, 1] = .error .uninitialised ∧ receive [0] = .error .uninitialised :=
  ⟨receive_cut (by decide) rfl (by decide), atyp_short (by decide)⟩

/-! ## The handshake -/

/-- A reply that grants the request, with an IPv4 address. -/
def IsReply (reply : Bytes) : Prop :=
  reply.length = 10 ∧ reply.byte 0 = 5 ∧ reply.byte 1 = 0 ∧ reply.byte 3 = 1
deriving Decidable

/-- The connection is made and delivers its stream in these pieces. -/
def Protocol.receives (p : Protocol) (chunks : List Bytes) : Protocol :=
  p.run (.connected :: chunks.map .data)

theorem run_closed {p : Protocol} (h : p.phase = .closed) (chunks : List Bytes) :
    p.run (chunks.map .data) = p := by
  induction chunks with
  | nil => rfl
  | cons e chunks ih =>
    rw [List.map_cons, Protocol.run, List.foldl_cons,
      show p.handle (.data e) = p by simp only [Protocol.handle, h]]
    exact ih

/-- After a failed check the ready callback is not called any more. -/
theorem run_fail (p : Protocol) (code : ErrCode) (chunks : List Bytes) :
    ((p.fail code).run (chunks.map .data)).ready = p.ready := by
  rw [run_closed rfl]
  rfl

/-- A handshake that is over calls no one back, and passes the data of a connection on. -/
theorem run_ready {p : Protocol} (h : p.phase = .ready) (chunks : List Bytes) :
    (p.run (chunks.map .data)).ready = p.ready ∧
      (p.command = .connect →
        (p.run (chunks.map .data)).delivered = p.delivered ++ chunks) := by
  induction chunks generalizing p with
  | nil => exact ⟨rfl, fun _ => (List.append_nil _).symm⟩
  | cons e chunks ih =>
    rw [List.map_cons, Protocol.run, List.foldl_cons]
    cases hcommand : p.command with
    | connect =>
      have hstep : p.handle (.data e) = { p with delivered := p.delivered ++ [e] } := by
        simp only [Protocol.handle, h, hcommand]
      obtain ⟨hready, hdelivered⟩ := @ih { p with delivered := p.delivered ++ [e] } h
      rw [hstep]
      refine ⟨hready, fun _ => (hdelivered hcommand).trans ?_⟩
      rw [List.append_assoc, List.singleton_append]
    | associate =>
      have hstep : p.handle (.data e) = p := by simp only [Protocol.handle, h, hcommand]
      rw [hstep]
      exact ⟨(ih h).1, fun hconnect => by cases hconnect⟩

section Handshake

variable {command : Command} {addr : Ip4} {port : Nat} {reply tunnel : Bytes}

/-- The protocol with its greeting sent. -/
def greeted (command : Command) (addr : Ip4) (port : Nat) : Protocol :=
  { Protocol.start command addr port with written := [[5, 1, 0]], phase := .greeting }

/-- The protocol with its request sent. -/
def asked (command : Command) (addr : Ip4) (port : Nat) : Protocol :=
  { greeted command addr port with
    written := [[5, 1, 0], (greeted command addr port).request]
    phase := .requested }

theorem receives_cons (e : Bytes) (chunks : List Bytes) :
    (Protocol.start command addr port).receives (e :: chunks) =
      ((greeted command addr port).onMethod e).run (chunks.map .data) := rfl

theorem onMethod_granted : (greeted command addr port).onMethod [5, 0] = asked command addr port := rfl

theorem run_asked (e : Bytes) (chunks : List Bytes) :
    (asked command addr port).run ((e :: chunks).map .data) =
      ((asked command addr port).onReply e).run (chunks.map .data) := rfl

theorem onReply_granted (h : IsReply reply) :
    ∃ bound, (asked command addr port).onReply reply =
      { asked command addr port with ready := [bound], phase := .ready } := by
  obtain ⟨hlen, hver, hrep, hatyp⟩ := h
  rw [Protocol.onReply, if_neg (not_not.mpr hlen), if_neg (not_not.mpr hver),
    if_neg (not_not.mpr hrep), if_neg (not_not.mpr hatyp)]
  exact ⟨_, rfl⟩

/-- **The handshake.** For a stream that grants the request, the ready callback is called once
and the data behind the reply gets through, exactly when the two messages of the server came in
a piece of their own each. -/
theorem handshake_iff (command : Command) (addr : Ip4) (port : Nat) (chunks : List Bytes)
    (reply tunnel : Bytes) (hreply : IsReply reply)
    (hstream : chunks.flatten = [5, 0] ++ (reply ++ tunnel)) :
    (((Protocol.start command addr port).receives chunks).ready.length = 1 ∧
      (command = .connect →
        ((Protocol.start command addr port).receives chunks).delivered.flatten = tunnel)) ↔
      ∃ rest, chunks = [5, 0] :: reply :: rest := by
  constructor
  · rintro ⟨hready, -⟩
    cases chunks with
    | nil => cases hstream
    | cons e chunks =>
      rw [receives_cons] at hready
      rw [List.flatten_cons] at hstream
      by_cases htwo : e.length = 2
      swap
      · rw [Protocol.onMethod, if_pos htwo, run_fail] at hready
        cases hready
      obtain ⟨rfl, hbehind⟩ := List.append_inj hstream htwo
      rw [onMethod_granted] at hready
      cases chunks with
      | nil =>
        have hempty := congrArg List.length hbehind
        rw [List.length_append, hreply.1] at hempty
        exact absurd hempty.symm (by simp)
      | cons e chunks =>
        rw [run_asked] at hready
        rw [List.flatten_cons] at hbehind
        by_cases hten : e.length = 10
        swap
        · rw [Protocol.onReply, if_pos hten, run_fail] at hready
          cases hready
        obtain ⟨rfl, -⟩ := List.append_inj hbehind (hten.trans hreply.1.symm)
        exact ⟨chunks, rfl⟩
  · rintro ⟨rest, rfl⟩
    obtain ⟨bound, hgranted⟩ := @onReply_granted command addr port reply hreply
    have htunnel : rest.flatten = tunnel := by
      rw [List.flatten_cons, List.flatten_cons] at hstream
      exact (List.append_inj (List.append_inj hstream rfl).2 rfl).2
    rw [receives_cons, onMethod_granted, run_asked, hgranted]
    obtain ⟨hready, hdelivered⟩ := @run_ready
      { asked command addr port with ready := [bound], phase := .ready } rfl rest
    refine ⟨by rw [hready]; rfl, fun hconnect => ?_⟩
    rw [hdelivered hconnect, ← htunnel]
    rfl

end Handshake

/-- A reply that binds 10.0.0.1:80. -/
def grant : Bytes := [5, 0, 0, 1, 10, 0, 0, 1, 0, 80]

theorem handshake_iff_pieces :
    ((Protocol.start .connect (ip4 1 2 3 4) 80).receives [[5, 0], grant, [72], [105]]).ready.length = 1 ∧
      ((Protocol.start .connect (ip4 1 2 3 4) 80).receives
        [[5, 0], grant, [72], [105]]).delivered.flatten = [72, 105] :=
  have h := (handshake_iff .connect (ip4 1 2 3 4) 80 [[5, 0], grant, [72], [105]] grant [72, 105]
    (by decide) rfl).mpr ⟨_, rfl⟩
  ⟨h.1, h.2 rfl⟩

/-- Both messages in one read, and the first in two. -/
theorem handshake_depends_on_pieces :
    ((Protocol.start .connect (ip4 1 2 3 4) 80).receives [[5, 0] ++ grant]).errors =
        [.unexpectLength] ∧
      ((Protocol.start .connect (ip4 1 2 3 4) 80).receives [[5, 0] ++ grant]).ready = [] ∧
      ((Protocol.start .associate (ip4 0 0 0 0) 80).receives [[5], [0], grant]).errors =
        [.unexpectLength] ∧
      ((Protocol.start .associate (ip4 0 0 0 0) 80).receives [[5], [0], grant]).ready = [] := by
  decide

end Grid0Relay.Socks5
