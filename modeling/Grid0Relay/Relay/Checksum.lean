import Grid0Relay.Lib.OnesComplement
import Grid0Relay.Relay.Memory

/-!
# Checksums and address translation

`ipv4_header_checksum`, `udp_checksum` and `rewrite_ipv4_addresses` of
`lan-play.c`, and the older `calc_checksum` of `ipv4.c` that the fake gateway's
replies use. The accumulators are 32 bits wide, as in the source.
-/

namespace Grid0Relay

open Lib Lib.Exec Lib.OnesComplement

/-- `checksum_add_bytes`; also the summing loop of `ipv4_header_checksum`. -/
def checksumAddBytes : UInt32 → Bytes → UInt32
  | sum, a :: b :: rest => checksumAddBytes (sum + (a.toUInt32 <<< 8 ||| b.toUInt32)) rest
  | sum, [a] => sum + (a.toUInt32 <<< 8)
  | sum, [] => sum

/-- `ipv4_header_checksum` over the whole list. -/
def ipv4HeaderChecksum (packet : Bytes) : Nat :=
  complement16 (fold (checksumAddBytes 0 packet).toNat)

/-- `udp_checksum`. -/
def udpChecksum (ip : Bytes) (headerLen totalLen : Nat) : Nat :=
  let udpLen := totalLen - headerLen
  let sum := checksumAddBytes 0 (ip.slice 12 8)
  let sum := sum + ipv4ProtocolUdp.toUInt32
  let sum := sum + UInt32.ofNat (udpLen % 65536)
  let sum := checksumAddBytes sum (ip.slice headerLen udpLen)
  let result := complement16 (fold sum.toNat)
  if result = 0 then 0xffff else result

/-- `rewrite_ipv4_addresses`: the result and the buffer it leaves. -/
def rewriteIpv4Addresses (ip : Bytes) (capturedLen : Nat) (src dst : Ip4) :
    RelayM (Bool × Bytes) :=
  if capturedLen < 20 then pure (false, ip)
  else do
    let verLen ← readByte ip 0
    let headerLen := (verLen &&& 0x0f).toNat * 4
    let totalLen ← readNet16 ip 2
    if headerLen < 20 ∨ headerLen > capturedLen ∨ totalLen < headerLen ∨
        totalLen > capturedLen then pure (false, ip)
    else do
      let ip ← writeRange ip 12 src.toList
      let ip ← writeRange ip 16 dst.toList
      let ip ← writeRange ip 10 (Bytes.bytes16 0)
      let header ← readRange ip 0 headerLen
      let ip ← writeRange ip 10 (Bytes.bytes16 (ipv4HeaderChecksum header))
      let protocol ← readByte ip 9
      if protocol = ipv4ProtocolUdp ∧ totalLen ≥ headerLen + 8 then do
        let ip ← writeRange ip (headerLen + 6) (Bytes.bytes16 0)
        let packet ← readRange ip 0 totalLen
        let ip ← writeRange ip (headerLen + 6)
          (Bytes.bytes16 (udpChecksum packet headerLen totalLen))
        pure (true, ip)
      else pure (true, ip)

/-- The summing loop of `calc_checksum`. A trailing odd byte is added as it
stands, not shifted into the high half of a word. -/
def calcChecksumSum : UInt32 → Bytes → UInt32
  | sum, a :: b :: rest => calcChecksumSum (sum + (a.toUInt32 <<< 8 ||| b.toUInt32)) rest
  | sum, [a] => sum + a.toUInt32
  | sum, [] => sum

/-- `while (sum > 0xffff) sum -= 0xffff;` -/
def reduceSum : Nat → Nat → Nat
  | 0, sum => sum
  | fuel + 1, sum => if sum > 0xffff then reduceSum fuel (sum - 0xffff) else sum

/-- `calc_checksum` over the whole list. -/
def calcChecksum (buffer : Bytes) : Nat :=
  let sum := (calcChecksumSum 0 buffer).toNat
  complement16 (reduceSum sum sum)

/-! ## The 32-bit accumulator -/

theorem word_toNat (a b : UInt8) :
    (a.toUInt32 <<< 8 ||| b.toUInt32).toNat = a.toNat * 256 + b.toNat := by
  have ha := a.toNat_lt
  have hb := b.toNat_lt
  have hshift : (a.toUInt32 <<< 8).toNat = a.toNat <<< 8 := by
    rw [UInt32.toNat_shiftLeft]
    simp only [UInt8.toNat_toUInt32, Nat.shiftLeft_eq]
    have : (8 : UInt32).toNat % 32 = 8 := rfl
    rw [this]
    omega
  rw [UInt32.toNat_or, hshift, UInt8.toNat_toUInt32,
    ← Nat.shiftLeft_add_eq_or_of_lt (by omega : b.toNat < 2 ^ 8), Nat.shiftLeft_eq]

theorem high_toNat (a : UInt8) : (a.toUInt32 <<< 8).toNat = a.toNat * 256 := by
  simpa using word_toNat a 0

/-- The accumulator is the word sum modulo 2³². -/
theorem checksumAddBytes_toNat : ∀ (sum : UInt32) (b : Bytes),
    (checksumAddBytes sum b).toNat = (sum.toNat + wordSum b) % 2 ^ 32
  | sum, [] => by
    have := sum.toNat_lt
    simp only [checksumAddBytes, wordSum]
    omega
  | sum, [a] => by
    simp only [checksumAddBytes, wordSum, UInt32.toNat_add, high_toNat]
  | sum, a :: b :: rest => by
    rw [checksumAddBytes, checksumAddBytes_toNat _ rest, UInt32.toNat_add, word_toNat]
    simp only [wordSum]
    omega

/-- Over anything a 16-bit length can describe, the accumulator does not wrap. -/
theorem checksumAddBytes_exact {sum : UInt32} {b : Bytes}
    (h : sum.toNat + 65535 * ((b.length + 1) / 2) < 2 ^ 32) :
    (checksumAddBytes sum b).toNat = sum.toNat + wordSum b := by
  have hle := wordSum_le b
  rw [checksumAddBytes_toNat, Nat.mod_eq_of_lt (by omega)]

theorem ipv4HeaderChecksum_lt (b : Bytes) : ipv4HeaderChecksum b < 65536 := complement16_lt _

theorem udpChecksum_lt (ip : Bytes) (headerLen totalLen : Nat) :
    udpChecksum ip headerLen totalLen < 65536 := by
  simp only [udpChecksum]
  split
  · omega
  · exact complement16_lt _

theorem udpChecksum_ne_zero (ip : Bytes) (headerLen totalLen : Nat) :
    udpChecksum ip headerLen totalLen ≠ 0 := by
  simp only [udpChecksum]
  split
  · omega
  · assumption

end Grid0Relay
