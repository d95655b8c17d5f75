import Grid0Relay.Lib.Exec
import Grid0Relay.Relay.State

/-!
# The client of the forwarding server

`lan-client.c`: packets that are longer than the path MTU are sent in fragments with a header of
their own, and put together again in one of a hundred slots. Whatever the C does outside of its
buffers is a fault.
-/

namespace Grid0Relay.LanClient

open Lib Lib.Exec

def fragCount : Nat := 100

def etherMtu : Nat := 1500

def fragHeaderLen : Nat := 16

/-- `lan_client_type`. -/
inductive ClientType
  | keepalive
  | ipv4
  | ping
  | ipv4Frag
  | authMe
  | info
deriving DecidableEq

def ClientType.code : ClientType → UInt8
  | .keepalive => 0
  | .ipv4 => 1
  | .ping => 2
  | .ipv4Frag => 3
  | .authMe => 4
  | .info => 0x10

/-- The case of the `switch` that a type byte selects. -/
def ClientType.ofCode (b : UInt8) : Option ClientType :=
  [keepalive, ipv4, ping, ipv4Frag, authMe, info].find? (·.code = b)

/-- `lan_client_fragment_header`. -/
structure FragmentHeader where
  src : Ip4
  dst : Ip4
  id : Nat
  part : Nat
  totalPart : Nat
  len : Nat
  pmtu : Nat

/-- `lan_client_fragment`. -/
structure Fragment where
  localId : Nat
  src : Ip4
  id : Nat
  part : Nat
  used : Bool
  totalLen : Nat
  buffer : Bytes
  size : buffer.length = etherMtu

/-- What goes wrong in the receive path. -/
inductive Fault
  /-- A byte behind the received ones is read. -/
  | readOutside
  /-- A byte behind a buffer is written. -/
  | writeOutside
  /-- A shift by the width of an `int` or more. -/
  | wideShift
  /-- More than a fragment buffer is handed to `lan_client_process`. -/
  | longPacket
deriving DecidableEq

/-- The fields of `lan_play` that belong to the client. `lan_client_init` takes no `pmtu` below
zero. -/
structure Client where
  pmtu : Nat
  fragId : Int32
  localId : Int32
  frags : Fin fragCount → Fragment
  username : Option Bytes
  key : Bytes
  uploadPacket : UInt64
  uploadByte : UInt64
  downloadPacket : UInt64
  downloadByte : UInt64
  /-- The calls of `uv_udp_send` so far, and the datagrams it took. -/
  asked : Nat
  sent : List Bytes
  /-- The packets handed to `lan_client_process`. -/
  processed : List Bytes

/-- What the client gets from outside. -/
structure Env where
  udpSend : Nat → Int
  sha1 : Bytes → Bytes

abbrev ClientM := EStateM Fault Client

/-! ## Sending -/

/-- A datagram is given to `uv_udp_send`, which takes it or not. -/
def Client.upload (env : Env) (datagram : Bytes) (c : Client) : Client :=
  { c with
    asked := c.asked + 1
    sent := if env.udpSend c.asked = 0 then c.sent ++ [datagram] else c.sent
    uploadPacket := c.uploadPacket + 1
    uploadByte := c.uploadByte + UInt64.ofNat datagram.length }

/-- `lan_client_send_raw`. -/
def lanClientSendRaw (env : Env) (bufs : List Bytes) : ClientM Int :=
  if bufs.flatten.length = 0 then pure 0
  else modifyGet fun c => (env.udpSend c.asked, c.upload env bufs.flatten)

/-- The header of a fragment as it is sent. -/
def fragmentHeader (h : FragmentHeader) : Bytes :=
  h.src.toList ++ h.dst.toList ++ Bytes.bytes16 h.id ++
    [UInt8.ofNat h.part, UInt8.ofNat h.totalPart] ++ Bytes.bytes16 h.len ++ Bytes.bytes16 h.pmtu

/-- The buffers of the fragment of a packet at a position. -/
def partBufs (id totalPart pmtu : Nat) (packet : Bytes) (i pos : Nat) : List Bytes :=
  let partLen := min pmtu (packet.length - pos)
  let header : FragmentHeader :=
    ⟨packet.vecAt 4 12, packet.vecAt 4 16, id, i, totalPart, partLen, pmtu⟩
  [[ClientType.ipv4Frag.code], fragmentHeader header, packet.slice pos partLen]

/-- The fragments of a packet from a position on. Each takes the packet further, so its length
is fuel enough. -/
def sendParts (env : Env) (id totalPart pmtu : Nat) (packet : Bytes) : Nat → Nat → Nat → ClientM Int
  | 0, _, _ => pure 0
  | fuel + 1, i, pos =>
    if pos < packet.length then do
      let ret ← lanClientSendRaw env (partBufs id totalPart pmtu packet i pos)
      let pos := pos + min pmtu (packet.length - pos)
      if ret ≠ 0 then pure ret else sendParts env id totalPart pmtu packet fuel (i + 1) pos
    else pure 0

/-- `total_part` of `lan_client_send`. -/
def totalParts (pmtu len : Nat) : Nat :=
  if pmtu * (len / pmtu) < len then len / pmtu + 1 else len / pmtu

/-- The `int` an identifier is taken from, of which a header has 16 bits. -/
def Client.nextId (c : Client) : Nat := c.fragId.toUInt32.toNat

/-- `lan_client_send`. -/
def lanClientSend (env : Env) (type : ClientType) (packet : Bytes) : ClientM Int := do
  let c ← get
  if type = .ipv4 ∧ c.pmtu > 0 ∧ totalParts c.pmtu packet.length > 1 then do
    modify fun c => { c with fragId := c.fragId + 1 }
    sendParts env c.nextId (totalParts c.pmtu packet.length) c.pmtu packet (packet.length + 1) 0 0
  else lanClientSendRaw env [[type.code], packet]

/-! ## Receiving -/

/-- The call of `lan_client_process`, which reads the destination and then the packet. -/
def lanClientProcess (available : Bytes) (len : Nat) : ClientM Unit :=
  if len > etherMtu then throw .longPacket
  else if len ≠ 0 ∧ (available.length < 20 ∨ available.length < len) then throw .readOutside
  else modify fun c => { c with processed := c.processed ++ [available.take len] }

def readHeader (packet : Bytes) : FragmentHeader :=
  ⟨packet.vecAt 4 0, packet.vecAt 4 4, packet.net16 8, (packet.byte 10).toNat,
    (packet.byte 11).toNat, packet.net16 12, packet.net16 14⟩

/-- The slot that collects this packet. -/
def Client.matching (c : Client) (header : FragmentHeader) : Option (Fin fragCount) :=
  (List.finRange fragCount).find? fun i =>
    (c.frags i).used && decide ((c.frags i).id = header.id) && decide ((c.frags i).src = header.src)

def Client.unused (c : Client) : Option (Fin fragCount) :=
  (List.finRange fragCount).find? fun i => !(c.frags i).used

/-- `LABS(frags[i].local_id - lan_play->local_id)`. -/
def Client.age (c : Client) (i : Fin fragCount) : Nat :=
  (Int32.ofNat (c.frags i).localId - c.localId).toInt.natAbs

/-- The first slot of the greatest age, and that age. -/
def Client.oldest (c : Client) : Nat × Option (Fin fragCount) :=
  (List.finRange fragCount).foldl (fun best i =>
    if (c.frags i).used ∧ c.age i > best.1 then (c.age i, some i) else best) (0, none)

def Client.setFrag (c : Client) (i : Fin fragCount) (f : Fragment) : Client :=
  { c with frags := fun j => if j = i then f else c.frags j }

/-- A slot as it is given to a packet. Its length and its buffer stay. -/
def Client.claimed (c : Client) (header : FragmentHeader) (i : Fin fragCount) : Fragment :=
  { c.frags i with
    used := true
    id := header.id
    localId := c.localId.toUInt32.toNat % 65536
    src := header.src
    part := 0 }

def Client.claim (c : Client) (header : FragmentHeader) (i : Fin fragCount) : Client :=
  { c.setFrag i (c.claimed header i) with localId := c.localId + 1 }

/-- The slot of a fragment: that of its packet, an unused one, or an old one. -/
def Client.place (c : Client) (header : FragmentHeader) : Option (Fin fragCount) × Client :=
  match c.matching header with
  | some i => (some i, c)
  | none =>
    match c.unused with
    | some i => (some i, c.claim header i)
    | none =>
      match c.oldest with
      | (age, some i) => if age > fragCount then (some i, c.claim header i) else (none, c)
      | (_, none) => (none, c)

/-- `frag->part |= 1 << header.part`, in a byte. -/
def Fragment.mark (header : FragmentHeader) (f : Fragment) : Fragment :=
  { f with part := (f.part ||| 1 <<< header.part) % 256 }

theorem length_put_buffer (f : Fragment) {off : Nat} {xs : Bytes}
    (h : off + xs.length ≤ etherMtu) : (f.buffer.put off xs).length = etherMtu := by
  rw [Bytes.length_put (by rw [f.size]; exact h), f.size]

/-- `memcpy` into the buffer of a slot. -/
def Fragment.copy (f : Fragment) (off : Nat) (xs : Bytes) (h : off + xs.length ≤ etherMtu) :
    Fragment := { f with buffer := f.buffer.put off xs, size := length_put_buffer f h }

/-- The last part gives the length. -/
def Fragment.measure (header : FragmentHeader) (f : Fragment) : Fragment :=
  if header.part + 1 = header.totalPart then
    { f with totalLen := ((header.totalPart - 1) * header.pmtu + header.len) % 65536 }
  else f

/-- `~(~0 << header.total_part) == frag->part`. -/
def Fragment.complete (header : FragmentHeader) (f : Fragment) : Bool :=
  2 ^ header.totalPart - 1 = f.part

/-- The fragment is put into its slot; a copy of nothing touches nothing. -/
def storePart (packet : Bytes) (header : FragmentHeader) (i : Fin fragCount) : ClientM Unit := do
  let f := (← get).frags i
  if header.part ≥ 32 then throw .wideShift
  else if header.len = 0 then modify fun c => c.setFrag i (f.mark header)
  else if fragHeaderLen + header.len > packet.length then throw .readOutside
  else if h : header.pmtu * header.part + (packet.slice fragHeaderLen header.len).length ≤ etherMtu then
    modify fun c => c.setFrag i ((f.mark header).copy (header.pmtu * header.part)
      (packet.slice fragHeaderLen header.len) h)
  else throw .writeOutside

/-- The end of `lan_client_process_frag`. -/
def finishPart (header : FragmentHeader) (i : Fin fragCount) : ClientM Unit := do
  let f := ((← get).frags i).measure header
  modify fun c => c.setFrag i f
  if header.totalPart ≥ 32 then throw .wideShift
  else if f.complete header then do
    modify fun c => c.setFrag i { f with used := false }
    lanClientProcess f.buffer f.totalLen
  else pure ()

/-- `lan_client_process_frag`. -/
def lanClientProcessFrag (packet : Bytes) : ClientM Unit :=
  if packet.length < fragHeaderLen then throw .readOutside
  else do
    let slot ← modifyGet fun c => c.place (readHeader packet)
    match slot with
    | some i => do
      storePart packet (readHeader packet) i
      finishPart (readHeader packet) i
    | none => pure ()

/-- `lan_client_process_auth_me`. The lengths of the name and of the answer are cast to 16
bits, and the answer is written to as many bytes as its own. -/
def lanClientProcessAuthMe (env : Env) (packet : Bytes) : ClientM Unit := do
  let c ← get
  match c.username with
  | none => pure ()
  | some username =>
    if packet.length = 0 then throw .readOutside
    else if packet.byte 0 ≠ 0 then pure ()
    else if (20 + username.length % 65536) % 65536 < 20 + username.length % 65536 then
      throw .writeOutside
    else do
      let response := env.sha1 (c.key ++ packet.drop 1) ++ username.take (username.length % 65536)
      let _ ← lanClientSend env .authMe response
      pure ()

def Client.countDownload (datagram : Bytes) (c : Client) : Client :=
  { c with
    downloadPacket := c.downloadPacket + 1
    downloadByte := c.downloadByte + UInt64.ofNat datagram.length }

/-- `lan_client_on_recv` for the bytes it received. -/
def lanClientOnRecv (env : Env) (datagram : Bytes) : ClientM Unit :=
  if datagram.length = 0 then pure ()
  else do
    modify (Client.countDownload datagram)
    let packet := datagram.drop 1
    match ClientType.ofCode (datagram.byte 0 &&& 0x7f) with
    | some .ipv4 => lanClientProcess packet packet.length
    | some .ipv4Frag => lanClientProcessFrag packet
    | some .authMe => lanClientProcessAuthMe env packet
    | _ => pure ()

end Grid0Relay.LanClient
