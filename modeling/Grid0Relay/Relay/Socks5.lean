import Grid0Relay.Relay.UdpProxy

/-!
# The SOCKS5 proxy

`proxy_socks5.cpp`: the buffers it reads and writes its messages with, the handshake on the TCP
connection, and the datagrams of `Socks5ProxyUdp`. The connection is the events it delivers; an
event of data carries the bytes one read gave.
-/

namespace Grid0Relay.Socks5

open Lib Lib.Exec

/-! ## Buffers -/

/-- `ProtocolUnpacker`. -/
structure Unpacker where
  data : Bytes
  offset : Nat

/-- What a handler may not do. -/
inductive Misuse
  /-- A local variable was used before it had a value. -/
  | uninitialised
  /-- A byte outside the datagram was read. -/
  | outside
deriving DecidableEq

abbrev UnpackM := EStateM Misuse Unpacker

/-- `readAny`. Without the bytes it returns false and leaves the variable alone, here `none`. -/
def readAny (size : Nat) : UnpackM (Option Bytes) := do
  let u ← get
  if u.offset + size > u.data.length then pure none
  else do
    set { u with offset := u.offset + size }
    pure (some (u.data.slice u.offset size))

/-- The use of a variable that `readAny` was to fill. -/
def useField : Option Bytes → UnpackM Bytes
  | some v => pure v
  | none => throw .uninitialised

/-- `ProtocolPacker`: the bytes written so far, of `length`. -/
structure Packer where
  length : Nat
  data : Bytes

def Packer.new (length : Nat) : Packer := ⟨length, []⟩

/-- `writeAny` and `writeRaw`. What does not fit is not written. -/
def Packer.write (v : Bytes) (p : Packer) : Packer :=
  if p.data.length + v.length > p.length then p else { p with data := p.data ++ v }

/-! ## Datagrams -/

def udpHeaderSize : Nat := 10

/-- The datagram `Socks5ProxyUdp::send` packs. -/
def packDatagram (addr : Ip4) (port : Nat) (dat : Bytes) : Packer :=
  ((((((Packer.new (udpHeaderSize + dat.length)).write [0, 0]).write [0]).write [1]).write
    addr.toList).write (Bytes.bytes16 port)).write dat

/-- What the data handler hands to `send_udp_ex`. -/
structure Incoming where
  fromIp : Ip4
  fromPort : Nat
  payload : Bytes
deriving DecidableEq

/-- The data handler of `Socks5ProxyUdp` behind the address type. The length of the payload is
cast to 16 bits. -/
def behindAtyp (atyp : Bytes) : UnpackM (Option Incoming) :=
  if atyp.byte 0 ≠ 1 then pure none
  else do
    let sinAddr ← readAny 4
    let sinPort ← readAny 2
    let data := (← get).data
    let len := (data.length + 65536 - udpHeaderSize) % 65536
    let fromIp ← useField sinAddr
    let fromPort ← useField sinPort
    if len ≠ 0 ∧ udpHeaderSize + len > data.length then throw .outside
    else pure (some ⟨fromIp.vecAt 4 0, fromPort.net16 0, data.slice udpHeaderSize len⟩)

/-- The data handler of `Socks5ProxyUdp` up to its call of `send_udp_ex`; `none` is its early
return. -/
def udpDataEvent : UnpackM (Option Incoming) := do
  let _rev ← readAny 2
  let _frag ← readAny 1
  let atyp ← readAny 1
  let atyp ← useField atyp
  behindAtyp atyp

/-- What the handler makes of a datagram. -/
def receive (datagram : Bytes) : Except Misuse (Option Incoming) :=
  match udpDataEvent ⟨datagram, 0⟩ with
  | .ok incoming _ => .ok incoming
  | .error misuse _ => .error misuse

/-! ## The handshake -/

inductive ErrCode
  | versionMismatch
  | unexpectMethod
  | unexpectResponse
  | unexpectAddressType
  | unexpectLength
deriving DecidableEq

/-- The command of a request. -/
inductive Command
  | connect
  | associate
deriving DecidableEq

def Command.byte : Command → UInt8
  | .connect => 1
  | .associate => 3

/-- Which one-shot handler waits for data; after them `Socks5ProxyTcp` listens. -/
inductive Phase
  | connecting
  | greeting
  | requested
  | ready
  | closed
deriving DecidableEq

/-- `Socks5Protocol` with its connection. -/
structure Protocol where
  command : Command
  addr : Ip4
  port : Nat
  phase : Phase
  /-- The messages given to `tcp->write`. -/
  written : List Bytes
  /-- The calls of the error callback. -/
  errors : List ErrCode
  /-- The calls of the ready callback; that of `associate` gets the bound address. -/
  ready : List (Option (Ip4 × Nat))
  /-- The data `Socks5ProxyTcp` passed to its `dataCallback`. -/
  delivered : List Bytes

/-- `connect` and `associate` before anything has happened. -/
def Protocol.start (command : Command) (addr : Ip4) (port : Nat) : Protocol :=
  ⟨command, addr, port, .connecting, [], [], [], []⟩

/-- A failed `Assert`. -/
def Protocol.fail (code : ErrCode) (p : Protocol) : Protocol :=
  { p with errors := p.errors ++ [code], phase := .closed }

/-- The request behind the greeting. -/
def Protocol.request (p : Protocol) : Bytes :=
  ((((((Packer.new 10).write [5]).write [p.command.byte]).write [0]).write [1]).write
    p.addr.toList).write (Bytes.bytes16 p.port) |>.data

/-- The data handler of `auth`. -/
def Protocol.onMethod (e : Bytes) (p : Protocol) : Protocol :=
  if e.length ≠ 2 then p.fail .unexpectLength
  else if e.byte 0 ≠ 5 then p.fail .versionMismatch
  else if e.byte 1 ≠ 0 then p.fail .unexpectMethod
  else { p with written := p.written ++ [p.request], phase := .requested }

/-- The data handler of the request. With ten bytes every field of the reply is read. -/
def Protocol.onReply (e : Bytes) (p : Protocol) : Protocol :=
  if e.length ≠ 10 then p.fail .unexpectLength
  else if e.byte 0 ≠ 5 then p.fail .versionMismatch
  else if e.byte 1 ≠ 0 then p.fail .unexpectResponse
  else if e.byte 3 ≠ 1 then p.fail .unexpectAddressType
  else
    let bound := match p.command with
      | .connect => none
      | .associate => some (e.vecAt 4 4, e.net16 8)
    { p with ready := p.ready ++ [bound], phase := .ready }

/-- What the connection delivers. -/
inductive TcpEvent
  | connected
  | data (e : Bytes)

/-- `ConnectEvent` and `DataEvent`. A connection is not read before it is made, and delivers
nothing once it is closed. -/
def Protocol.handle (p : Protocol) : TcpEvent → Protocol
  | .connected =>
    match p.phase with
    | .connecting => { p with written := p.written ++ [[5, 1, 0]], phase := .greeting }
    | _ => p
  | .data e =>
    match p.phase with
    | .connecting => p
    | .greeting => p.onMethod e
    | .requested => p.onReply e
    | .ready =>
      match p.command with
      | .connect => { p with delivered := p.delivered ++ [e] }
      | .associate => p
    | .closed => p

def Protocol.run (p : Protocol) (events : List TcpEvent) : Protocol :=
  events.foldl Protocol.handle p

end Grid0Relay.Socks5
