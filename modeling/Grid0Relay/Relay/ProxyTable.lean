import Grid0Relay.Relay.Socks5
import Mathlib.Logic.Function.Basic

/-!
# The sockets of the UDP proxies

`ProxyBase` of `proxy_common.hpp`: a socket for each address and port of the console, kept for
thirty seconds behind its last use. A closure over `this` answers a reply, so an item carries the
address it was made for. The readings of the clock are part of the events.
-/

namespace Grid0Relay.ProxyTable

open Lib

/-- `PROXY_UDP_TABLE_TTL`. -/
def ttl : Nat := 30

/-- A `DirectProxyUdp` or `Socks5ProxyUdp`. -/
structure Item where
  src : Ip4
  srcport : Nat
  expireAt : Nat

structure Datagram where
  src : Ip4
  srcport : Nat
  dst : Ip4
  dstport : Nat
  data : Bytes

structure Proxy where
  /-- Every item made, by its number. -/
  items : Nat → Item
  made : Nat
  cacheTable : Ip4 × Nat → Option Nat
  /-- What went out, and whereto replies were passed on, each with its item. -/
  sent : List (Nat × Datagram)
  replies : List (Nat × Ip4 × Nat)

def Proxy.start : Proxy := ⟨fun _ => ⟨ip4 0 0 0 0, 0, 0⟩, 0, fun _ => none, [], []⟩

inductive Event
  | udpSend (d : Datagram) (now later : Nat)
  /-- A reply at the socket of an item, which is open as long as the table has it. -/
  | received (item : Nat) (later : Nat)
  | gc (now : Nat)

def Proxy.visit (p : Proxy) (i later : Nat) : Proxy :=
  { p with items := Function.update p.items i { p.items i with expireAt := later + ttl } }

def Proxy.isExpire (p : Proxy) (i now : Nat) : Bool := (p.items i).expireAt < now

/-- `newUdp` and `init`, and its place in the table. -/
def Proxy.newUdp (p : Proxy) (src : Ip4) (srcport later : Nat) : Nat × Proxy :=
  (p.made, { p with
    items := Function.update p.items p.made ⟨src, srcport, later + ttl⟩
    made := p.made + 1
    cacheTable := Function.update p.cacheTable (src, srcport) (some p.made) })

def Proxy.getUdp (p : Proxy) (src : Ip4) (srcport now later : Nat) : Nat × Proxy :=
  match p.cacheTable (src, srcport) with
  | some i => if p.isExpire i now then p.newUdp src srcport later else (i, p)
  | none => p.newUdp src srcport later

def Proxy.handle (p : Proxy) : Event → Proxy
  | .udpSend d now later =>
    let (i, p) := p.getUdp d.src d.srcport now later
    { p.visit i later with sent := p.sent ++ [(i, d)] }
  | .received i later =>
    if p.cacheTable ((p.items i).src, (p.items i).srcport) = some i then
      { p.visit i later with replies := p.replies ++ [(i, (p.items i).src, (p.items i).srcport)] }
    else p
  | .gc now =>
    { p with cacheTable := fun k => (p.cacheTable k).filter fun i => !p.isExpire i now }

def run (events : List Event) : Proxy := events.foldl Proxy.handle .start

/-! ## Waiting for the association -/

/-- The part of `Socks5ProxyUdp` that sends. -/
structure Socks5Udp where
  isReady : Bool
  waitingData : Option Bytes
  sent : List Bytes

inductive Socks5Event
  | send (addr : Ip4) (port : Nat) (dat : Bytes)
  /-- The association stands; it does so once. -/
  | ready

def Socks5Udp.handle (u : Socks5Udp) : Socks5Event → Socks5Udp
  | .send addr port dat =>
    let data := (Socks5.packDatagram addr port dat).data
    if u.isReady then { u with sent := u.sent ++ [data] } else { u with waitingData := some data }
  | .ready =>
    { u with isReady := true, sent := u.sent ++ u.waitingData.toList, waitingData := none }

end Grid0Relay.ProxyTable
