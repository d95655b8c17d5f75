import Grid0Relay.Rpc.Connection
import Mathlib.Data.List.Infix

/-!
# The WebSocket transport

`WSConnection`: the request line and the headers up to the handshake, then the frame
decoder. A file the connection serves instead of a handshake is logged by its name;
reading and sending it happens elsewhere.
-/

namespace Grid0Relay.Rpc

open Lib Lib.Exec

/-- `WSCState`. -/
inductive WscState
  | doHeader
  | waitHttp
  | waitDecodeHeader
  | waitingFor16BitLength
  | waitingFor64BitLength
  | waitingForMaskKey
  | waitingForPayload
  | dead
deriving DecidableEq, Repr

/-- `WSFrame`. -/
structure WsFrame where
  fin : Bool
  rsv1 : Bool
  rsv2 : Bool
  rsv3 : Bool
  mask : Bool
  opcode : UInt8
  length : Nat
  maskBytes : Bytes
  data : Bytes

/-- `WSFrame::clear`. -/
def WsFrame.clear : WsFrame := ⟨false, false, false, false, false, 0, 0, [0, 0, 0, 0], []⟩

/-- A frame that was received. -/
structure Received where
  opcode : UInt8
  payload : Bytes
deriving DecidableEq

/-- The fields of a `WSConnection`; `closed` records a call of `close`, `opened` the
files `sendFile` has asked for, `framed` the frames `onFrame` was called with. -/
structure Ws where
  wsState : WscState
  path : Bytes
  headers : List (Bytes × Bytes)
  bl : BufferList
  frame : WsFrame
  closed : Bool
  opened : List Bytes
  framed : List Received

/-- A `WSConnection` after its constructor. -/
def Ws.init : Ws := ⟨.doHeader, [], [], .empty, .clear, false, [], []⟩

/-! ## The handshake -/

def httpResp400 : Bytes :=
  text "HTTP/1.1 400 Bad Request\r\nContent-Length: 0\r\nConnection: Close\r\n\r\n"

def httpResp101Part : Bytes :=
  text ("HTTP/1.1 101 Switching Protocols\r\nUpgrade: websocket\r\nConnection: Upgrade\r\n" ++
    "Sec-WebSocket-Protocol: switch-lan-play-rpc\r\nSec-WebSocket-Accept: ")

/-- `getPath`: the middle of a request line, empty if the line is no HTTP/1.1 one. -/
def getPath (line : Bytes) : Bytes :=
  match line.dropWhile (· ≠ 32) with
  | [] => []
  | _ :: line =>
    match line.dropWhile (· ≠ 32) with
    | [] => []
    | _ :: version => if version = text "HTTP/1.1" then line.takeWhile (· ≠ 32) else []

/-- `::tolower` in the C locale. -/
def toLower (b : UInt8) : UInt8 := if 65 ≤ b ∧ b ≤ 90 then b + 32 else b

/-- `headers[key] = value`. -/
def setHeader (headers : List (Bytes × Bytes)) (key value : Bytes) : List (Bytes × Bytes) :=
  (key, value) :: headers.filter (·.1 ≠ key)

/-- `headers[key]`, empty when missing. -/
def header (headers : List (Bytes × Bytes)) (key : String) : Bytes :=
  ((headers.find? (·.1 = text key)).map Prod.snd).getD []

/-- The condition of the handshake. -/
def upgrades (path : Bytes) (headers : List (Bytes × Bytes)) : Bool :=
  path == text "/" && header headers "upgrade" == text "websocket" &&
    header headers "connection" == text "Upgrade" &&
    header headers "sec-websocket-version" == text "13" &&
    header headers "sec-websocket-protocol" == text "switch-lan-play-rpc" &&
    decide ((header headers "sec-websocket-key").length > 0)

/-- `filename.find("..") != npos`. -/
def hasDotDot (name : Bytes) : Bool := decide (text ".." <:+: name)

/-- The part of a connection that the header lines change. -/
structure Head where
  wsState : WscState
  path : Bytes
  headers : List (Bytes × Bytes)

/-- What a header line is answered with. -/
inductive Reply
  | nothing
  | badRequest
  | switching (key : Bytes)
  | file (name : Bytes)

/-- The callback of a `WSConnection`: one line of the request. -/
def headerLine (h : Head) (line : Bytes) : Head × Reply :=
  match h.wsState with
  | .doHeader =>
    let path := getPath line
    if path.length = 0 then ({ h with path, wsState := .dead }, .badRequest)
    else ({ h with path, wsState := .waitHttp }, .nothing)
  | .waitHttp =>
    if line.length > 0 then
      match line.dropWhile (· ≠ 58) with
      | [] => ({ h with wsState := .dead }, .badRequest)
      | _ :: value =>
        let key := (line.takeWhile (· ≠ 58)).map toLower
        ({ h with headers := setHeader h.headers key (value.dropWhile (· = 32)) }, .nothing)
    else if upgrades h.path h.headers then
      ({ h with wsState := .waitDecodeHeader }, .switching (header h.headers "sec-websocket-key"))
    else ({ h with wsState := .dead }, .file (h.path.drop 1))
  | _ => (h, .nothing)

/-- `sendFile`, up to opening the file. -/
def sendFile (name : Bytes) : RpcM Ws Bytes :=
  if hasDotDot name then pure httpResp400
  else do
    let filename := if name.length = 0 then text "index.html" else name
    modifyInner fun s => { s with opened := s.opened ++ [text "http_root/" ++ filename] }
    pure []

/-- The text a header line is answered with. -/
def replyText (host : Host) : Reply → RpcM Ws Bytes
  | .nothing => pure []
  | .badRequest => pure httpResp400
  | .switching key => pure (httpResp101Part ++ host.accept key ++ text "\r\n\r\n")
  | .file name => sendFile name

/-- A line of the request, with its answer. -/
def wsOnLine (host : Host) (line : Bytes) : RpcM Ws Unit := do
  let c ← getConn
  let r := headerLine ⟨c.inner.wsState, c.inner.path, c.inner.headers⟩ line
  modifyInner fun s =>
    { s with wsState := r.1.wsState, path := r.1.path, headers := r.1.headers }
  let result ← replyText host r.2
  sendStr result

/-! ## Frames -/

/-- `WSConnection::sendText`. -/
def sendText (str : Bytes) : RpcM Ws Unit :=
  if str.length < 126 then
    modifyConn fun c => { c with
      written := c.written ++ [[0x81, UInt8.ofNat str.length], str] }
  else if str.length < 65536 then
    modifyConn fun c => { c with
      written := c.written ++ [[0x81, 126] ++ Bytes.bytes16 str.length, str] }
  else pure ()

/-- `WSConnection::onFrame`. -/
def onFrame (host : Host) (token : Bytes) : RpcM Ws Unit := do
  let c ← getConn
  modifyInner fun s => { s with framed := s.framed ++ [⟨s.frame.opcode, s.frame.data⟩] }
  if c.inner.frame.opcode = 8 then modifyInner fun s => { s with closed := true }
  else if c.inner.frame.opcode ≠ 1 then pure ()
  else do
    modifyInner fun s => { s with frame := { s.frame with data := [] } }
    let result ← authorise host token c.inner.frame.data
    if result.length > 0 then sendText result else pure ()

def makeData (host : Host) (length : Nat) : RpcM Ws Unit :=
  if host.allocates length then pure () else throw .badAlloc

/-- Take `n` bytes off the front of the buffer list. -/
def advance (host : Host) (n : Nat) : RpcM Ws Unit := do
  let c ← getConn
  let bl ← c.inner.bl.advance host n
  modifyInner fun s => { s with bl }

/-- The frame its first two bytes announce. -/
def frameOf (firstByte secondByte : UInt8) : WsFrame :=
  { WsFrame.clear with
    fin := firstByte &&& 0x80 ≠ 0
    rsv1 := firstByte &&& 0x40 ≠ 0
    rsv2 := firstByte &&& 0x20 ≠ 0
    rsv3 := firstByte &&& 0x10 ≠ 0
    mask := secondByte &&& 0x80 ≠ 0
    opcode := firstByte &&& 0x0f
    length := (secondByte &&& 0x7f).toNat }

/-- What follows the first two bytes. -/
def beginFrame (host : Host) (frame : WsFrame) : RpcM Ws Unit :=
  if frame.length = 126 then
    modifyInner fun s => { s with frame, wsState := .waitingFor16BitLength }
  else if frame.length = 127 then
    modifyInner fun s => { s with frame, wsState := .waitingFor64BitLength }
  else do
    makeData host frame.length
    modifyInner fun s => { s with frame, wsState := .waitingForMaskKey }

/-- The first two bytes of a frame. `true` is the `break`. -/
def decodeHeader (host : Host) : RpcM Ws Bool := do
  let c ← getConn
  if c.inner.wsState ≠ .waitDecodeHeader then pure false
  else if c.inner.bl.size < 2 then pure true
  else do
    let firstByte ← c.inner.bl.get host 0
    let secondByte ← c.inner.bl.get host 1
    beginFrame host (frameOf firstByte secondByte)
    advance host 2
    pure false

def decode16BitLength (host : Host) : RpcM Ws Unit := do
  let c ← getConn
  if c.inner.wsState = .waitingFor16BitLength ∧ c.inner.bl.size ≥ 2 then do
    let high ← c.inner.bl.get host 0
    let low ← c.inner.bl.get host 1
    let length := high.toNat * 256 + low.toNat
    makeData host length
    modifyInner fun s => { s with frame := { s.frame with length } }
    advance host 2
    modifyInner fun s => { s with wsState := .waitingForMaskKey }
  else pure ()

/-- A byte shifted as an `int` and widened to 64 bits. -/
def shifted (host : Host) (b : UInt8) (by' : Nat) : RpcM Ws Nat := do
  let v ← (if by' < 32 then pure ((b.toNat <<< by') % 2 ^ 32)
    else UInt32.toNat <$> ask fun n => host.wideShift n b)
  pure (if v < 2 ^ 31 then v else v + (2 ^ 64 - 2 ^ 32))

/-- The loop over the eight bytes, from byte `i` on. -/
def longLength (host : Host) (bl : BufferList) : Nat → Nat → Nat → RpcM Ws Nat
  | 0, _, length => pure length
  | left + 1, i, length => do
    let b ← bl.get host i
    let v ← shifted host b (64 - 8 * i - 8)
    longLength host bl left (i + 1) (length ||| v)

def decode64BitLength (host : Host) : RpcM Ws Unit := do
  let c ← getConn
  if c.inner.wsState = .waitingFor64BitLength ∧ c.inner.bl.size ≥ 8 then do
    let length ← longLength host c.inner.bl 8 0 0
    makeData host length
    modifyInner fun s => { s with frame := { s.frame with length } }
    advance host 8
    modifyInner fun s => { s with wsState := .waitingForMaskKey }
  else pure ()

def decodeMaskKey (host : Host) : RpcM Ws Unit := do
  let c ← getConn
  if c.inner.wsState = .waitingForMaskKey then
    if c.inner.frame.mask then
      if c.inner.bl.size ≥ 4 then do
        let maskBytes ← c.inner.bl.copyTo host 0 4
        modifyInner fun s => { s with frame := { s.frame with maskBytes } }
        advance host 4
        modifyInner fun s => { s with wsState := .waitingForPayload }
      else pure ()
    else modifyInner fun s => { s with wsState := .waitingForPayload }
  else pure ()

/-- `frame.data[i] ^= frame.maskBytes[i % 4]`. -/
def unmask (key data : Bytes) : Bytes := data.mapIdx fun i b => b ^^^ key.byte (i % 4)

def decodePayload (host : Host) (token : Bytes) : RpcM Ws Unit := do
  let c ← getConn
  if c.inner.wsState = .waitingForPayload ∧ c.inner.bl.size ≥ c.inner.frame.length then do
    let data ← c.inner.bl.copyTo host 0 c.inner.frame.length
    advance host c.inner.frame.length
    modifyInner fun s => { s with
      frame := { s.frame with
        data := if s.frame.mask then unmask s.frame.maskBytes data else data }
      wsState := .waitDecodeHeader }
    onFrame host token
  else pure ()

/-- One round of the loop of `WSConnection::onData`; `true` is the `break`. -/
def decodeRound (host : Host) (token : Bytes) : RpcM Ws Bool := do
  let broke ← decodeHeader host
  if broke then pure true
  else do
    decode16BitLength host
    decode64BitLength host
    decodeMaskKey host
    decodePayload host token
    pure false

/-- The loop of `WSConnection::onData`. A round that comes back to a header has taken
one off the buffer list. -/
def decodeLoop (host : Host) (token : Bytes) : Nat → RpcM Ws Unit
  | 0 => pure ()
  | fuel + 1 => do
    let broke ← decodeRound host token
    let c ← getConn
    if !broke ∧ c.inner.wsState = .waitDecodeHeader then decodeLoop host token fuel
    else pure ()

/-- `WSConnection::onData`. -/
def wsOnData (host : Host) (token : Bytes) (chunk : Chunk) : RpcM Ws Unit := do
  let c ← getConn
  match c.inner.wsState with
  | .doHeader => feed host (wsOnLine host) chunk.bytes
  | .waitHttp => feed host (wsOnLine host) chunk.bytes
  | .dead => pure ()
  | _ => do
    modifyInner fun s => { s with bl := s.bl.add chunk.bytes }
    decodeLoop host token (c.inner.bl.size + chunk.bytes.length + 2)

/-! ## The server -/

/-- The connections of a server, and the questions asked so far. A connection nobody
has opened is one after its constructor. -/
structure Server (δ : Type) where
  conns : Nat → Connection δ
  asked : Nat

variable {δ : Type}

/-- One `DataEvent` of one client. -/
def serve (onData : Chunk → RpcM δ Unit) (id : Nat) (chunk : Chunk) :
    EStateM Fault (Server δ) Unit := fun s =>
  match onData chunk ⟨s.conns id, s.asked⟩ with
  | .ok _ w => .ok () ⟨Function.update s.conns id w.conn, w.asked⟩
  | .error e w => .error e ⟨Function.update s.conns id w.conn, w.asked⟩

/-- Any interleaving of the clients' chunks. A fault ends the process. -/
def serveAll (onData : Chunk → RpcM δ Unit) : List (Nat × Chunk) → EStateM Fault (Server δ) Unit
  | [] => pure ()
  | (id, chunk) :: rest => do
    serve onData id chunk
    serveAll onData rest

/-- A server nobody has connected to. -/
def Server.start (inner : δ) : Server δ := ⟨fun _ => .init inner, 0⟩

end Grid0Relay.Rpc
