import Grid0Relay.Lib.Bytes
import Grid0Relay.Lib.Exec

/-!
# RPC connections

The two transports of the RPC server: lines of text over TCP (`TCPConnection`) and
text frames over WebSocket (`WSConnection`), with the line splitter and the buffer
list between them and the socket. What `RPCServerSession::onMessage` answers, the
handshake hash and the contents of memory outside a buffer enter as a `Host`.
-/

namespace Grid0Relay.Rpc

open Lib Lib.Exec

/-- A text literal of the source. -/
def text (s : String) : Bytes := s.toList.map fun c => UInt8.ofNat c.toNat

/-- What a connection cannot know, by question number where it may differ each time. -/
structure Host where
  /-- The result of `session->onMessage`. -/
  onMessage : Nat → Bytes → Bytes
  /-- `base64_encode` of the SHA-1 digest of a key followed by the protocol's GUID. -/
  accept : Bytes → Bytes
  /-- A byte outside of its buffer. -/
  strayByte : Nat → UInt8
  /-- `sizeList[0]` of an empty vector. -/
  staleSize : Nat → Nat
  /-- An `int` shifted by its width or more. -/
  wideShift : Nat → UInt8 → UInt32
  /-- Whether `make_unique` gets that many bytes. -/
  allocates : Nat → Bool

/-- What ends the process. -/
inductive Fault
  /-- `throw "not found"` in `BufferList::get`, which nothing catches. -/
  | notFound
  /-- `erase` on an empty vector. -/
  | emptyErase
  /-- `std::bad_alloc`. -/
  | badAlloc
deriving DecidableEq, Repr

/-- What both transports have: the buffer of the line splitter, the flag, and ghosts
for the calls of `onMessage` and the writes. -/
structure Connection (δ : Type) where
  buffer : Bytes
  authed : Bool
  messages : List Bytes
  written : List Bytes
  inner : δ

/-- A connection and how many questions the host was asked. -/
structure World (δ : Type) where
  conn : Connection δ
  asked : Nat

abbrev RpcM (δ : Type) := EStateM Fault (World δ)

variable {δ α : Type}

def ask (answer : Nat → α) : RpcM δ α :=
  modifyGet fun w => (answer w.asked, { w with asked := w.asked + 1 })

def getConn : RpcM δ (Connection δ) := World.conn <$> get

def modifyConn (f : Connection δ → Connection δ) : RpcM δ Unit :=
  modify fun w => { w with conn := f w.conn }

def modifyInner (f : δ → δ) : RpcM δ Unit := modifyConn fun c => { c with inner := f c.inner }

/-- One chunk of a `DataEvent`: libuv reads into buffers of 64 KiB and reports only
reads that got something. -/
structure Chunk where
  bytes : Bytes
  nonempty : bytes ≠ []
  bound : bytes.length ≤ 65536

/-! ## Lines -/

/-- The end of a round of `ReadLine::feed`: a trailing carriage return goes. An
empty line has no last byte, and `line[len - 1]` is whatever lies there. -/
def chomp (host : Host) (line : Bytes) : RpcM δ Bytes := do
  let last ← (match line.getLast? with
    | some b => pure b
    | none => ask host.strayByte)
  pure (if last = 13 then line.dropLast else line)

/-- The loop of `ReadLine::feed`, and the buffer it leaves. Every round takes a line
off the buffer. -/
def drain (host : Host) (callback : Bytes → RpcM δ Unit) : Nat → Bytes → RpcM δ Bytes
  | 0, buffer => pure buffer
  | fuel + 1, buffer =>
    if 10 ∈ buffer then do
      let line ← chomp host (buffer.takeWhile (· ≠ 10))
      callback line
      drain host callback fuel ((buffer.dropWhile (· ≠ 10)).drop 1)
    else pure buffer

/-- `ReadLine::feed`. -/
def feed (host : Host) (callback : Bytes → RpcM δ Unit) (data : Bytes) : RpcM δ Unit := do
  let c ← getConn
  let buffer ← drain host callback (c.buffer ++ data).length (c.buffer ++ data)
  modifyConn fun c => { c with buffer }

/-- `BaseTCPConnection::sendStr`. -/
def sendStr (str : Bytes) : RpcM δ Unit :=
  if str.length > 0 then modifyConn fun c => { c with written := c.written ++ [str] } else pure ()

/-! ## The gate -/

/-- `RPCServerSession::onMessage`. -/
def onMessage (host : Host) (message : Bytes) : RpcM δ Bytes := do
  modifyConn fun c => { c with messages := c.messages ++ [message] }
  ask fun n => host.onMessage n message

/-- The branch on `authed`, the same in both transports. -/
def authorise (host : Host) (token line : Bytes) : RpcM δ Bytes := do
  let c ← getConn
  if c.authed then onMessage host line
  else if line = token then do
    modifyConn fun c => { c with authed := true }
    pure (text "success=\"authorized\"")
  else pure (text "error=\"authorized failed: invalid token\"")

/-! ## `TCPConnection` -/

/-- The callback of a `TCPConnection`. -/
def tcpOnLine (host : Host) (token line : Bytes) : RpcM Unit Unit := do
  let result ← authorise host token line
  sendStr (result ++ text "\n# end\n")

/-- `BaseTCPConnection::onData`. -/
def tcpOnData (host : Host) (token : Bytes) (chunk : Chunk) : RpcM Unit Unit :=
  feed host (tcpOnLine host token) chunk.bytes

/-- A connection after its constructor. -/
def Connection.init (inner : δ) : Connection δ := ⟨[], false, [], [], inner⟩

/-! ## `BufferList` -/

/-- `BufferList`: the chunks, with `sizeList` their lengths. -/
structure BufferList where
  list : List Bytes
  totalSize : Nat
  offset : Nat

namespace BufferList

def empty : BufferList := ⟨[], 0, 0⟩

/-- `BufferList::size`, a difference of `unsigned int`s. -/
def size (bl : BufferList) : Nat := (bl.totalSize + 2 ^ 32 - bl.offset) % 2 ^ 32

/-- `BufferList::add`. -/
def add (bl : BufferList) (buf : Bytes) : BufferList :=
  { bl with list := bl.list ++ [buf], totalSize := (bl.totalSize + buf.length) % 2 ^ 32 }

/-- The loop of `BufferList::get`; `left` is where the chunk starts. The comparison
lets an index through that is the length of the chunk. -/
def getFrom (host : Host) (actId : Nat) : Nat → List Bytes → RpcM δ UInt8
  | _, [] => throw .notFound
  | left, item :: rest =>
    if left + item.length ≥ actId then
      if actId - left < item.length then pure (item.byte (actId - left))
      else ask host.strayByte
    else getFrom host actId (left + item.length) rest

/-- `BufferList::get`. -/
def get (bl : BufferList) (host : Host) (k : Nat) : RpcM δ UInt8 :=
  getFrom host ((k + bl.offset) % 2 ^ 32) 0 bl.list

/-- `BufferList::copyTo`. -/
def copyTo (bl : BufferList) (host : Host) : Nat → Nat → RpcM δ Bytes
  | _, 0 => pure []
  | start, n + 1 => do
    let b ← bl.get host start
    let rest ← bl.copyTo host (start + 1) n
    pure (b :: rest)

/-- The loop of `BufferList::advance`. When the last chunk is gone, the condition
reads `sizeList[0]` of an empty vector. -/
def drop (host : Host) : List Bytes → Nat → Nat → RpcM δ BufferList
  | [], totalSize, offset => do
    let stale ← ask host.staleSize
    if offset ≥ stale then throw .emptyErase else pure ⟨[], totalSize, offset⟩
  | item :: rest, totalSize, offset =>
    if offset ≥ item.length then
      drop host rest ((totalSize + 2 ^ 32 - item.length) % 2 ^ 32) (offset - item.length)
    else pure ⟨item :: rest, totalSize, offset⟩

/-- `BufferList::advance`. -/
def advance (bl : BufferList) (host : Host) (n : Nat) : RpcM δ BufferList :=
  drop host bl.list bl.totalSize ((bl.offset + n) % 2 ^ 32)

end BufferList

end Grid0Relay.Rpc
