import Grid0Relay.Relay.Gateway

/-!
# Datagrams from the Internet

`send_udp_ex` of `udp.c` with the checksum over a chain of parts, and the receive
callbacks of the two UDP proxies that call it. A part is the bytes it points at; a read
behind them is a read out of bounds.
-/

namespace Grid0Relay

open Lib Lib.Exec Lib.OnesComplement

/-! ## The checksum of a chain -/

/-- `while (len > 1) { sum += ntohs(*buf++); len -= 2; }` -/
def addWords (part : Bytes) : Nat → Nat → UInt32 → RelayM UInt32
  | _, 0, sum => pure sum
  | start, words + 1, sum => do
    let word ← readNet16 part start
    addWords part (start + 2) words (sum + UInt32.ofNat word)

/-- The loop of `calc_payload_checksum` over the parts. A part behind an odd one starts at
`(uint16_t *)part->ptr + 1`, two bytes in. -/
def addParts : List Bytes → Nat → UInt32 → RelayM UInt32
  | [], _, sum => pure sum
  | part :: rest, offset, sum => do
    let len : Int := part.length - offset
    let words := len.toNat / 2
    let sum ← addWords part (2 * offset) words sum
    let left := len - 2 * words
    if left = 0 then addParts rest 0 sum
    else do
      let high ← readByte part (2 * offset + 2 * words)
      match rest with
      | [] => pure (sum + (high.toUInt32 <<< 8))
      | next :: _ => do
        let low ← readByte next 0
        addParts rest 1 (sum + (high.toUInt32 <<< 8 ||| low.toUInt32))

/-- `calc_payload_checksum`. -/
def calcPayloadChecksum (parts : List Bytes) : RelayM Nat := do
  let sum ← addParts parts 0 0
  pure (complement16 (reduceSum sum.toNat sum.toNat))

/-! ## Sending -/

/-- The UDP header `send_udp_ex` builds. -/
def udpHeader (srcport dstport length checksum : Nat) : Bytes :=
  Bytes.bytes16 srcport ++ Bytes.bytes16 dstport ++ Bytes.bytes16 length ++ Bytes.bytes16 checksum

/-- The pseudo-header it sums with it. -/
def pseudoHeader (src dst : Ip4) (length : Nat) : Bytes :=
  src.toList ++ dst.toList ++ [0, ipv4ProtocolUdp] ++ Bytes.bytes16 length

/-- `udp_length` of `send_udp_ex`. -/
def udpLength (payload : List Bytes) : Nat :=
  (8 + payloadTotalLen (payload.map Payload.whole)) % 65536

/-- The checksum `send_udp_ex` writes. -/
def sentChecksum (src : Ip4) (srcport : Nat) (dst : Ip4) (dstport : Nat) (payload : List Bytes) :
    RelayM Nat :=
  calcPayloadChecksum (pseudoHeader src dst (udpLength payload) ::
    udpHeader srcport dstport (udpLength payload) 0 :: payload)

/-- `send_udp_ex`. -/
def sendUdpEx (env : Env) (src : Ip4) (srcport : Nat) (dst : Ip4) (dstport : Nat)
    (payload : List Bytes) : RelayM Int := do
  let checksum ← sentChecksum src srcport dst dstport payload
  sendIpv4Ex env src dst ipv4ProtocolUdp
    ((udpHeader srcport dstport (udpLength payload) checksum :: payload).map Payload.whole)

/-! ## The proxies -/

/-- The receive callback of `DirectProxyUdp`; the proxy serves one address and port of the
console. `visit` reads the clock. -/
def directProxyRecv (env : Env) (src : Ip4) (srcport : Nat) (fromIp : Ip4) (fromPort : Nat)
    (data : Bytes) : RelayM Unit := do
  let part ← readRange data 0 (data.length % 65536)
  let _ ← sendUdpEx env fromIp fromPort src srcport [part]
  let _ ← timeNull env
  pure ()

/-- The receive callback of `Socks5ProxyUdp`, which takes a ten-byte header off. Its closure
keeps a copy `src` of the console's address. -/
def socks5ProxyRecv (env : Env) (src : Ip4) (srcport : Nat) (data : Bytes) : RelayM Unit := do
  let atyp ← readByte data 3
  if atyp ≠ 1 then pure ()
  else do
    let fromIp ← readIp4 data 4
    let fromPort ← readNet16 data 8
    let part ← readRange data 10 ((data.length - 10) % 65536)
    let _ ← sendUdpEx env fromIp fromPort src srcport [part]
    let _ ← timeNull env
    pure ()

end Grid0Relay
