import Grid0Relay.Logic.Reach
import Grid0Relay.Logic.Transport

/-!
# Transport checksums behind a relay

Translation changes the pseudo-header of every transport protocol. Only UDP is
repaired, and over the length of the IPv4 packet, not over the length the datagram
declares. So a TCP segment stays valid just when the old and the new addresses have the
same sum, and a UDP datagram just when what follows it in its packet adds nothing.
-/

namespace Grid0Relay

open Lib Lib.Exec Lib.OnesComplement

/-- The checksum of the segment or datagram in a packet verifies against these addresses. -/
def TransportValid (src dst : Ip4) (ip : Bytes) : Prop :=
  if ip.byte 9 = 6 then Closes src dst 6 (dataOf ip) else UdpValid src dst (dataOf ip)
deriving Decidable

/-- An unfragmented packet that carries TCP or UDP. -/
structure Segment (ip : Bytes) : Prop where
  whole : ip.net16 6 &&& 0x3fff = 0
  protocol : ip.byte 9 = 6 ∨ ip.byte 9 = 17
  valid : TransportValid (ip.vecAt 4 12) (ip.vecAt 4 16) ip

/-- The new addresses add up to the same as the old ones. -/
def SameSum (src dst : Ip4) (ip : Bytes) : Prop :=
  wordSum (src.toList ++ dst.toList) % 65535 =
    wordSum ((ip.vecAt 4 12).toList ++ (ip.vecAt 4 16).toList) % 65535

/-- What follows the datagram in its packet adds nothing to the sum. -/
def NoSlack (data : Bytes) : Prop :=
  (data.length - declaredLen data + wordSum data) % 65535 = wordSum (data.take (declaredLen data)) % 65535

instance (src dst : Ip4) (ip : Bytes) : Decidable (SameSum src dst ip) :=
  inferInstanceAs (Decidable (_ = _))

instance (data : Bytes) : Decidable (NoSlack data) := inferInstanceAs (Decidable (_ = _))

section Udp

/-- Writing the checksum field changes a sum over any length that covers it alike. -/
theorem wordSum_take_put {data : Bytes} {n c : Nat} (hn : 8 ≤ n) (hlen : n ≤ data.length)
    (hc : c < 65536) :
    wordSum ((data.put 6 (Bytes.bytes16 c)).take n) + data.net16 6 = wordSum (data.take n) + c := by
  have hput := @Bytes.slice_put_inside data 0 6 n (Bytes.bytes16 c) (by simp; omega) (by omega)
  have htake : (data.put 6 (Bytes.bytes16 c)).take n =
      Bytes.put (data.take n) 6 (Bytes.bytes16 c) := by
    simpa [Bytes.slice] using hput
  have hsum := @wordSum_put16 (data.take n) 6 c rfl (by rw [List.length_take]; omega) hc
  have hfield : Bytes.net16 (data.take n) 6 = data.net16 6 := by
    rw [Bytes.net16, Bytes.net16, Bytes.byte_take (by omega), Bytes.byte_take (by omega)]
  rw [htake, ← hfield]
  exact hsum

/-- A checksum that closes the sum over the whole packet closes it over the datagram just
when there is no slack. -/
theorem udpValid_put {src dst : Ip4} {data : Bytes} {c : Nat} (hlo : 8 ≤ declaredLen data)
    (hhi : declaredLen data ≤ data.length) (hc : c ≠ 0) (hlt : c < 65536)
    (hcloses : Closes src dst 17 (data.put 6 (Bytes.bytes16 c))) :
    UdpValid src dst (data.put 6 (Bytes.bytes16 c)) ↔ NoSlack data := by
  have hlen : 8 ≤ data.length := by omega
  have hwhole := @wordSum_put16 data 6 c rfl (by omega) hlt
  have hpart := wordSum_take_put hlo hhi hlt
  have hfield : (data.put 6 (Bytes.bytes16 c)).net16 6 = c := Bytes.net16_put_self (by omega) hlt
  unfold UdpValid NoSlack Closes pseudoSum at *
  rw [declaredLen_put hlen, hfield]
  rw [Bytes.length_put (by simp; omega)] at hcloses ⊢
  rw [List.length_take, Bytes.length_put (by simp; omega), Nat.min_eq_left hhi]
  generalize wordSum (src.toList ++ dst.toList) = addresses at *
  generalize declaredLen data = n at *
  generalize wordSum ((data.put 6 (Bytes.bytes16 c)).take n) = part at *
  generalize wordSum (data.put 6 (Bytes.bytes16 c)) = whole at *
  generalize wordSum (data.take n) = oldPart at *
  generalize wordSum data = oldWhole at *
  generalize data.net16 6 = field at *
  generalize data.length = len at *
  constructor
  · rintro ⟨-, -, hzero | hclosed⟩
    · exact absurd hzero hc
    · omega
  · intro hslack
    exact ⟨hlo, hhi, Or.inr (by omega)⟩

end Udp

/-- The condition of `transport_valid_iff`. -/
def KeepsSum (src dst : Ip4) (ip : Bytes) : Prop :=
  if ip.byte 9 = 6 then SameSum src dst ip else NoSlack (dataOf ip)
deriving Decidable

/-- A valid segment or datagram is valid behind a relay just when its sum is kept: for
TCP the sum of the addresses, for UDP the sum of what the packet holds behind it. -/
theorem transport_valid_iff {ip out : Bytes} {src dst : Ip4} (h : Hop ip out src dst)
    (hsegment : Segment ip) : TransportValid src dst out ↔ KeepsSum src dst ip := by
  obtain ⟨hrewrite, -, rfl⟩ := h.translate
  have hhl := hrewrite.2.1
  have hprotocol : (translate ip src dst).byte 9 = ip.byte 9 :=
    byte_translate hrewrite (by omega) (by omega)
  have hvalid := hsegment.valid
  unfold TransportValid KeepsSum at *
  rw [hprotocol]
  by_cases htcp : ip.byte 9 = 6
  · rw [if_pos htcp] at hvalid ⊢
    rw [if_pos htcp]
    have hnone : ¬ HasUdp ip := by
      rintro ⟨hudp, -⟩
      rw [htcp] at hudp
      exact absurd hudp (by decide)
    rw [dataOf_translate hrewrite hnone]
    unfold Closes pseudoSum SameSum at *
    omega
  · rw [if_neg htcp] at hvalid ⊢
    rw [if_neg htcp]
    obtain ⟨hlo, hhi, -⟩ := hvalid
    have hudp : HasUdp ip := by
      refine ⟨hsegment.protocol.resolve_left htcp, ?_⟩
      rw [length_dataOf hrewrite] at hhi
      omega
    have hcloses := @closes_translate ip src dst hrewrite hudp
    rw [← dataOf_translate_udp hrewrite hudp] at hcloses ⊢
    exact udpValid_put hlo hhi (field_translate_ne_zero hrewrite hudp) (Bytes.net16_lt _ _) hcloses

/-- A packet of the console for the whole overlay, with this fragment word. -/
def consoleFrame (fragment : Nat) (protocol : UInt8) (data : Bytes) : Bytes :=
  etherHeader (mac6 0x02 0 0 0 0 0x10) (mac6 0x98 0xb6 0xe9 1 2 3) etherTypeIpv4 ++
    (ipv4Header (20 + data.length) 0 protocol (ip4 10 147 17 20) (ip4 10 147 17 255)).put 6
      (Bytes.bytes16 fragment) ++ data

/-- The console relays it to the overlay. -/
theorem hop_consoleFrame {fragment : Nat} {protocol : UInt8} {data : Bytes}
    (h : (after (lanPlayRelayWifiIpv4 (calmEnv 1000) (consoleFrame fragment protocol data)
      consoleWorld)).sent = consoleWorld.sent ++ [⟨.zerotier, zerotierFrame consoleWorld.lp
        broadcastMac (outgoing consoleWorld.lp (consoleFrame fragment protocol data))⟩]) :
    Hop (packetOf (consoleFrame fragment protocol data))
      (outgoing consoleWorld.lp (consoleFrame fragment protocol data)) consoleWorld.lp.zerotierIp
      (overlayDst consoleWorld.lp (consoleFrame fragment protocol data)) := by
  have hhop := Hop.wifi (calmEnv 1000) consoleWorld _ h (List.mem_singleton.mpr rfl)
    (overlayIpv4_zerotierFrame _ _ _)
  rw [zerotierFrame, payloadOf_etherHeader] at hhop
  exact hhop

/-- A datagram of two bytes. -/
def datagramFrame : Bytes := consoleFrame 0 17 [0xc0, 0, 0x88, 0xb8, 0, 10, 0, 0, 1, 2]

theorem transport_valid_datagramFrame :
    KeepsSum consoleWorld.lp.zerotierIp (overlayDst consoleWorld.lp datagramFrame)
      (packetOf datagramFrame) ∧
    TransportValid consoleWorld.lp.zerotierIp (overlayDst consoleWorld.lp datagramFrame)
      (outgoing consoleWorld.lp datagramFrame) := by
  have hkeeps : KeepsSum consoleWorld.lp.zerotierIp (overlayDst consoleWorld.lp datagramFrame)
      (packetOf datagramFrame) := by decide +kernel
  have hsegment : Segment (packetOf datagramFrame) := by constructor <;> decide
  exact ⟨hkeeps,
    (transport_valid_iff (hop_consoleFrame (by decide +kernel)) hsegment).mpr hkeeps⟩

/-- The first segment of a connection. -/
def synFrame : Bytes :=
  consoleFrame 0 6 ([0xc0, 0, 0x88, 0xb8, 0, 0, 0, 0, 0, 0, 0, 0, 0x50, 0x02, 0xff, 0xff] ++
    [46, 241, 0, 0])

/-- It leaves with the address of the relay and the checksum for the one of the console. -/
theorem syn_checksum_breaks :
    Hop (packetOf synFrame) (outgoing consoleWorld.lp synFrame) consoleWorld.lp.zerotierIp
      (overlayDst consoleWorld.lp synFrame) ∧
    Segment (packetOf synFrame) ∧
    ¬ TransportValid consoleWorld.lp.zerotierIp (overlayDst consoleWorld.lp synFrame)
      (outgoing consoleWorld.lp synFrame) :=
  ⟨hop_consoleFrame (by decide +kernel), by constructor <;> decide, by decide +kernel⟩

end Grid0Relay
