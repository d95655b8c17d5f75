import Grid0Relay.Lib.Bytes
import Grid0Relay.Lib.Exec
import Grid0Relay.Lib.OrderedMap
import Mathlib.Logic.Function.Basic

/-!
# The forwarding server

`SLPServer` of `udpserver.ts`. A handler runs until it returns, throws or suspends at
an `await`, and nothing runs in between. What suspends is kept in the state until the
event that resumes it. `Peer` objects are shared by reference, so they are numbered.
-/

namespace Grid0Relay.Forwarder

open Lib Lib.Exec

def timeout : Nat := 30 * 1000

inductive ForwarderType
  | keepalive
  | ipv4
  | ping
  | ipv4Frag
  | authMe
  | info
deriving DecidableEq, Repr

/-- `ForwarderTypeMap`. -/
def ForwarderType.code : ForwarderType → UInt8
  | .keepalive => 0
  | .ipv4 => 1
  | .ping => 2
  | .ipv4Frag => 3
  | .authMe => 4
  | .info => 0x10

/-- The member of the enumeration with this value, if it has one. -/
def ForwarderType.ofCode (b : UInt8) : Option ForwarderType :=
  [keepalive, ipv4, ping, ipv4Frag, authMe, info].find? (·.code = b)

structure AddressInfo where
  address : String
  port : Nat
deriving DecidableEq, Repr

def addr2str (rinfo : AddressInfo) : String := rinfo.address ++ ":" ++ toString rinfo.port

structure User where
  username : String
deriving DecidableEq, Repr

/-- The 65 bytes of a challenge. The first one is 255 until the others are random. -/
structure Challenge where
  marker : UInt8
  random : Vector UInt8 64
deriving DecidableEq

def Challenge.buffer (c : Challenge) : Bytes := c.marker :: c.random.toList

/-- `challenge` is assigned once and its buffer has no other owner. -/
structure Peer where
  rinfo : AddressInfo
  user : Option User
  challenge : Option Challenge

/-- A `CacheItem`, also the entries of the manager. -/
structure CacheItem where
  expireAt : Nat
  peer : Nat
deriving DecidableEq

/-- An `onNeedAuth` that waits for `verify`. -/
structure Login where
  peer : Nat
  username : String
  response : Bytes
deriving DecidableEq

structure Server where
  /-- Every `Peer` made, by its number. -/
  peers : Nat → Peer
  made : Nat
  manager : OrderedMap String CacheItem
  ipCache : OrderedMap Int CacheItem
  logins : Nat → Option Login
  begun : Nat
  /-- The peers whose `onNeedAuth` waits for `randomFill`. -/
  filling : Nat → Bool

/-- What a handler does besides changing the state. -/
inductive Action
  /-- `onIpv4` or `onIpv4Frag` is entered. -/
  | forward (type : ForwarderType) (peer : Nat) (payload : Bytes)
  | send (addr : AddressInfo) (msg : Bytes)
deriving DecidableEq

/-- What a handler gets from outside: the two readings of the clock it may take, and the
addresses to which `Socket.send` throws. -/
structure Env where
  now : Nat
  later : Nat
  throws : AddressInfo → Option String

/-- The parameters of a server. -/
structure Host where
  authProvider : Bool
  sha1 : Bytes → Bytes
  /-- `Buffer.toString`. -/
  decode : Bytes → String

/-- A thrown `Error`. -/
structure Thrown where
  message : String

@[ext] structure World where
  server : Server
  actions : List Action

abbrev ServerM := EStateM Thrown World

def getServer : ServerM Server := do return (← get).server

def modifyServer (f : Server → Server) : ServerM Unit :=
  modify fun w => { w with server := f w.server }

def act (a : Action) : ServerM Unit := modify fun w => { w with actions := w.actions ++ [a] }

def modifyPeer (p : Nat) (f : Peer → Peer) : ServerM Unit :=
  modifyServer fun s => { s with peers := Function.update s.peers p (f (s.peers p)) }

/-! ## `PeerManager` -/

/-- `manager.get`. -/
def managerGet (env : Env) (rinfo : AddressInfo) : ServerM Nat := do
  let s ← getServer
  match s.manager.get? (addr2str rinfo) with
  | none =>
    modifyServer fun s =>
      { s with
        peers := Function.update s.peers s.made ⟨rinfo, none, none⟩
        made := s.made + 1
        manager := s.manager.set (addr2str rinfo) ⟨env.now + timeout, s.made⟩ }
    return s.made
  | some i =>
    modifyServer fun s =>
      { s with manager := s.manager.set (addr2str rinfo) { i with expireAt := env.now + timeout } }
    return i.peer

/-- `manager.all`. -/
def Server.all (s : Server) (except : AddressInfo) : List Nat :=
  (s.manager.entries.filter (·.1 ≠ addr2str except)).map (·.2.peer)

def clearCacheItem {κ : Type} (now : Nat) (map : OrderedMap κ CacheItem) :
    OrderedMap κ CacheItem :=
  map.filter fun _ item => !decide (item.expireAt < now)

/-! ## Sending -/

def sendToRaw (env : Env) (addr : AddressInfo) (msg : Bytes) : ServerM Unit :=
  match env.throws addr with
  | some message => throw ⟨message⟩
  | none => act (.send addr msg)

def sendTo (env : Env) (p : Nat) (type : ForwarderType) (payload : Bytes) : ServerM Unit := do
  let s ← getServer
  sendToRaw env (s.peers p).rinfo (type.code :: payload)

def sendInfo (env : Env) (p : Nat) (info : String) : ServerM Unit :=
  sendTo env p .info info.toUTF8.toList

def sendEach (env : Env) (type : ForwarderType) (payload : Bytes) : List Nat → ServerM Unit
  | [] => pure ()
  | p :: rest => do
    sendTo env p type payload
    sendEach env type payload rest

def sendBroadcast (env : Env) (except : Nat) (type : ForwarderType) (payload : Bytes) :
    ServerM Unit := do
  let s ← getServer
  sendEach env type payload (s.all (s.peers except).rinfo)

/-! ## Datagrams -/

def readInt32BE (b : Bytes) (off : Nat) : Int :=
  let n := b.net16 off * 65536 + b.net16 (off + 2)
  if n < 2 ^ 31 then n else n - 2 ^ 32

/-- Where a type of datagram has its addresses. -/
structure Layout where
  type : ForwarderType
  src : Nat
  dst : Nat

/-- To the peer that has the destination, or to all. -/
def route (layout : Layout) (env : Env) (peer : Nat) (payload : Bytes) : ServerM Unit := do
  let s ← getServer
  match s.ipCache.get? (readInt32BE payload layout.dst) with
  | some item => sendTo env item.peer layout.type payload
  | none => sendBroadcast env peer layout.type payload

/-- The common body of `onIpv4` and `onIpv4Frag`. -/
def onRouted (layout : Layout) (env : Env) (peer : Nat) (payload : Bytes) : ServerM Unit := do
  act (.forward layout.type peer payload)
  if payload.length ≤ 20 then return
  let src := readInt32BE payload layout.src
  modifyServer fun s => { s with ipCache := s.ipCache.set src ⟨env.later + timeout, peer⟩ }
  route layout env peer payload

def ipv4Layout : Layout := ⟨.ipv4, 12, 16⟩

def ipv4FragLayout : Layout := ⟨.ipv4Frag, 0, 4⟩

def onIpv4 : Env → Nat → Bytes → ServerM Unit := onRouted ipv4Layout

def onIpv4Frag : Env → Nat → Bytes → ServerM Unit := onRouted ipv4FragLayout

def onPing (env : Env) (rinfo : AddressInfo) (msg : Bytes) : ServerM Unit :=
  sendToRaw env rinfo (msg.take 4)

def onPacket (env : Env) (peer : Nat) (type : Option ForwarderType) (payload : Bytes) :
    ServerM Unit :=
  match type with
  | some .ipv4 => onIpv4 env peer payload
  | some .ipv4Frag => onIpv4Frag env peer payload
  | _ => pure ()

structure Head where
  type : Option ForwarderType
  isEncrypted : Bool

def parseHead (msg : Bytes) : Head :=
  ⟨ForwarderType.ofCode (msg.byte 0 &&& 0x7f), decide (msg.byte 0 &&& 0x80 ≠ 0)⟩

/-! ## Logging in -/

/-- `onNeedAuth` for an `AuthMe`, up to the call of `verify`. -/
def onLogin (host : Host) (peer : Nat) (payload : Bytes) : ServerM Unit := do
  let s ← getServer
  if host.authProvider && (s.peers peer).challenge.isSome then
    if payload.length ≤ 20 then return
    let login : Login := ⟨peer, host.decode (payload.drop 20), payload.take 20⟩
    modifyServer fun s =>
      { s with logins := Function.update s.logins s.begun (some login), begun := s.begun + 1 }

/-- `onNeedAuth` for any other type, up to the call of `randomFill`. -/
def onStranger (env : Env) (peer : Nat) : ServerM Unit := do
  let s ← getServer
  match (s.peers peer).challenge with
  | none => do
    modifyPeer peer fun p => { p with challenge := some ⟨0xFF, Vector.replicate 64 0⟩ }
    modifyServer fun s => { s with filling := Function.update s.filling peer true }
  | some challenge =>
    if challenge.marker = 0xFF then return
    sendTo env peer .authMe challenge.buffer

def onNeedAuth (host : Host) (env : Env) (peer : Nat) (type : Option ForwarderType)
    (payload : Bytes) : ServerM Unit :=
  if type = some .authMe then onLogin host peer payload else onStranger env peer

/-- `BasicAuthProvider.verify` behind its lookup. The challenge it was given is a view of
the buffer, which it reads now. -/
def verify (host : Host) (sha1 challenge response : Bytes) : Bool :=
  host.sha1 (sha1 ++ challenge) == response

def wrongPassword : String := "Error when login: Wrong password"

/-- The `try` of `onNeedAuth` behind its `await`: the error text, empty if there is none. -/
def settle (env : Env) (login : Login) : Except String Bool → ServerM String
  | .ok true => do
    modifyPeer login.peer fun p => { p with user := some ⟨login.username⟩ }
    return ""
  | .ok false => do
    sendInfo env login.peer wrongPassword
    return wrongPassword
  | .error message => throw ⟨message⟩

/-- `onNeedAuth` behind its `await`. -/
def onVerdict (env : Env) (login : Login) (verdict : Except String Bool) : ServerM Unit := do
  let err ← tryCatch (settle env login verdict) fun e =>
    pure ("Error when login: " ++ e.message)
  if err.length > 0 then sendInfo env login.peer err

def onMessage (host : Host) (env : Env) (msg : Bytes) (rinfo : AddressInfo) : ServerM Unit := do
  if msg.length = 0 then return
  let head := parseHead msg
  if head.type = some .ping ∧ head.isEncrypted = false then onPing env rinfo msg
  else
    let peer ← managerGet env rinfo
    let s ← getServer
    if host.authProvider && (s.peers peer).user.isNone then
      onNeedAuth host env peer head.type (msg.drop 1)
    else onPacket env peer head.type (msg.drop 1)

/-! ## Runs -/

inductive Event
  | message (msg : Bytes) (rinfo : AddressInfo)
  /-- `getUserPasswordSHA1` of a login settles. -/
  | lookedUp (login : Nat) (found : Except String Bytes)
  /-- The timer of a login. -/
  | timedOut (login : Nat)
  /-- The thread of `randomFill` has written part of the buffer. -/
  | scribbled (peer : Nat) (random : Vector UInt8 64)
  | filled (peer : Nat) (random : Vector UInt8 64)
  | fillFailed (peer : Nat) (message : String)
  /-- The callback of `Socket.send` gets an error. -/
  | sendFailed (addr : AddressInfo)
  /-- The interval of the constructor. -/
  | interval

structure Input where
  event : Event
  env : Env

/-- The bytes that `verify` of this login reads when its lookup settles. -/
def Server.challengeOf (s : Server) (login : Login) : Bytes :=
  match (s.peers login.peer).challenge with
  | some challenge => challenge.random.toList
  | none => []

/-- Resume a login that has not been settled. -/
def resume (env : Env) (id : Nat) (verdict : Server → Login → Except String Bool) :
    ServerM Unit := do
  let s ← getServer
  match s.logins id with
  | none => pure ()
  | some login => do
    modifyServer fun s => { s with logins := Function.update s.logins id none }
    onVerdict env login (verdict s login)

/-- Something about a `randomFill` that is under way. -/
def whileFilling (peer : Nat) (x : ServerM Unit) : ServerM Unit := do
  let s ← getServer
  if s.filling peer then x

def onScribbled (peer : Nat) (random : Vector UInt8 64) : ServerM Unit :=
  modifyPeer peer fun p =>
    { p with challenge := p.challenge.map fun c => { c with random := random } }

def onFillFailed (peer : Nat) (message : String) : ServerM Unit := do
  modifyServer fun s => { s with filling := Function.update s.filling peer false }
  throw ⟨message⟩

def onFilled (env : Env) (peer : Nat) (random : Vector UInt8 64) : ServerM Unit := do
  modifyServer fun s => { s with filling := Function.update s.filling peer false }
  modifyPeer peer fun p => { p with challenge := some ⟨0, random⟩ }
  sendTo env peer .authMe (0 :: random.toList)

def handle (host : Host) (env : Env) : Event → ServerM Unit
  | .message msg rinfo => onMessage host env msg rinfo
  | .lookedUp id found => resume env id fun s login =>
    found.map fun sha1 => verify host sha1 (s.challengeOf login) login.response
  | .timedOut id => resume env id fun _ _ => .error "Timeout"
  | .scribbled peer random => whileFilling peer (onScribbled peer random)
  | .filled peer random => whileFilling peer (onFilled env peer random)
  | .fillFailed peer message => whileFilling peer (onFillFailed peer message)
  | .sendFailed addr =>
    modifyServer fun s => { s with manager := s.manager.delete (addr2str addr) }
  | .interval => modifyServer fun s =>
    { s with
      manager := clearCacheItem env.now s.manager
      ipCache := clearCacheItem env.later s.ipCache }

/-- One turn of the event loop. An error nobody catches leaves the state as it is. -/
def step (host : Host) (s : Server) (input : Input) : Server × List Action :=
  let w := after (handle host input.env input.event ⟨s, []⟩)
  (w.server, w.actions)

def Server.start : Server where
  peers := fun _ => ⟨⟨"", 0⟩, none, none⟩
  made := 0
  manager := .empty
  ipCache := .empty
  logins := fun _ => none
  begun := 0
  filling := fun _ => false

end Grid0Relay.Forwarder
