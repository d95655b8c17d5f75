import Grid0Relay.Logic.Relay

/-!
# A translated packet in a frame of its own

Both relay functions put the translated packet behind a new Ethernet header. What
the next hop reads out of that frame: the addresses are the new ones, and every
other field it looks at is the field of the frame the packet came in.
-/

namespace Grid0Relay

open Lib Lib.Exec

/-- The packet of `frame`, translated, in a frame of its own. -/
def carrier (dstMac srcMac : Mac) (frame : Bytes) (src dst : Ip4) : Bytes :=
  etherHeader dstMac srcMac etherTypeIpv4 ++ translate (packetOf frame) src dst

theorem zerotierFrame_outgoing (lp : LanPlay) (mac : Mac) (frame : Bytes) :
    zerotierFrame lp mac (outgoing lp frame) =
      carrier mac lp.zerotierMac frame lp.zerotierIp (overlayDst lp frame) := rfl

section Carrier

variable {dstMac srcMac : Mac} {frame : Bytes} {src dst : Ip4}

theorem etherType_carrier : Frame.etherType (carrier dstMac srcMac frame src dst) = etherTypeIpv4 :=
  etherType_etherHeader _ _ _ _ (by decide)

theorem etherSrc_carrier : Frame.etherSrc (carrier dstMac srcMac frame src dst) = srcMac :=
  etherSrc_etherHeader _ _ _ _

theorem ipSrc_carrier (h : Rewritable (packetOf frame) (packetOf frame).length) :
    Frame.ipSrc (carrier dstMac srcMac frame src dst) = src := by
  rw [carrier, ipSrc_etherHeader, src_translate h]

theorem ipDst_carrier (h : Rewritable (packetOf frame) (packetOf frame).length) :
    Frame.ipDst (carrier dstMac srcMac frame src dst) = dst := by
  rw [carrier, ipDst_etherHeader, dst_translate h]

variable (hpacket : HasPacket frame) (h : Rewritable (packetOf frame) (packetOf frame).length)
include hpacket h

theorem length_carrier :
    (carrier dstMac srcMac frame src dst).length = 14 + Frame.ipTotalLen frame := by
  rw [carrier, List.length_append, length_etherHeader, length_translate h, hpacket.length_packetOf]

/-- A byte outside the addresses and the checksums. -/
theorem byte_carrier {i : Nat} (hi : i < Frame.ipTotalLen frame) (out : i < 10 ∨ 20 ≤ i)
    (noUdp : Frame.ipProtocol frame = ipv4ProtocolUdp →
      i < Frame.ipHeaderLen frame + 6 ∨ Frame.ipHeaderLen frame + 8 ≤ i) :
    (carrier dstMac srcMac frame src dst).byte (14 + i) = frame.byte (14 + i) := by
  have hmin := (packet_sendable hpacket h).1
  have hudp : HasUdp (packetOf frame) →
      i < headerLen (packetOf frame) + 6 ∨ headerLen (packetOf frame) + 8 ≤ i := by
    rintro ⟨hproto, _⟩
    rw [byte_packetOf (by omega)] at hproto
    rw [headerLen_packetOf hmin]
    exact noUdp hproto
  rw [carrier, Bytes.byte_append_right (by simp), length_etherHeader, Nat.add_sub_cancel_left,
    byte_translate h out hudp, byte_packetOf hi]

theorem net16_carrier {i : Nat} (hi : i + 1 < Frame.ipTotalLen frame) (out : i + 1 < 10 ∨ 20 ≤ i)
    (noUdp : Frame.ipProtocol frame = ipv4ProtocolUdp →
      i + 1 < Frame.ipHeaderLen frame + 6 ∨ Frame.ipHeaderLen frame + 8 ≤ i) :
    (carrier dstMac srcMac frame src dst).net16 (14 + i) = frame.net16 (14 + i) := by
  have hlow := @byte_carrier dstMac srcMac frame src dst hpacket h i (by omega) (by omega)
    fun hu => by have := noUdp hu; omega
  have hhigh := @byte_carrier dstMac srcMac frame src dst hpacket h (i + 1) (by omega) (by omega)
    fun hu => by have := noUdp hu; omega
  rw [Bytes.net16, Bytes.net16, hlow, Nat.add_assoc, hhigh]

/-- A part of the payload behind the checksums. -/
theorem slice_carrier {i n : Nat} (hin : i + n ≤ Frame.ipTotalLen frame) (hout : 20 ≤ i)
    (hudp : Frame.ipHeaderLen frame + 8 ≤ i) :
    (carrier dstMac srcMac frame src dst).slice (14 + i) n = frame.slice (14 + i) n := by
  have hlen := @length_carrier dstMac srcMac frame src dst hpacket h
  have hframe := hpacket.length.2
  refine Bytes.ext_byte ?_ fun j hj => ?_
  · rw [Bytes.length_slice, Bytes.length_slice]
    omega
  · rw [Bytes.length_slice] at hj
    rw [Bytes.byte_slice (by omega), Bytes.byte_slice (by omega), Nat.add_assoc]
    exact byte_carrier hpacket h (by omega) (by omega) fun _ => by omega

theorem ipHeaderLen_carrier :
    Frame.ipHeaderLen (carrier dstMac srcMac frame src dst) = Frame.ipHeaderLen frame := by
  have hmin := (packet_sendable hpacket h).1
  have hbyte := @byte_carrier dstMac srcMac frame src dst hpacket h 0 (by omega) (by omega)
    fun _ => by omega
  rw [Frame.ipHeaderLen, Frame.ipHeaderLen, hbyte]

theorem ipVersion_carrier :
    Frame.ipVersion (carrier dstMac srcMac frame src dst) = Frame.ipVersion frame := by
  have hmin := (packet_sendable hpacket h).1
  have hbyte := @byte_carrier dstMac srcMac frame src dst hpacket h 0 (by omega) (by omega)
    fun _ => by omega
  rw [Frame.ipVersion, Frame.ipVersion, hbyte]

theorem ipTotalLen_carrier :
    Frame.ipTotalLen (carrier dstMac srcMac frame src dst) = Frame.ipTotalLen frame := by
  have hmin := (packet_sendable hpacket h).1
  exact net16_carrier hpacket h (by omega) (by omega) fun _ => by omega

theorem ipFragment_carrier :
    Frame.ipFragment (carrier dstMac srcMac frame src dst) = Frame.ipFragment frame := by
  have hmin := (packet_sendable hpacket h).1
  have hheader := ((rewritable_packetOf hpacket).mp h).1
  exact net16_carrier hpacket h (by omega) (by omega) fun _ => by omega

theorem ipProtocol_carrier :
    Frame.ipProtocol (carrier dstMac srcMac frame src dst) = Frame.ipProtocol frame := by
  have hmin := (packet_sendable hpacket h).1
  have hheader := ((rewritable_packetOf hpacket).mp h).1
  exact byte_carrier hpacket h (by omega) (by omega) fun _ => by omega

/-- The frame ends with its packet. -/
theorem hasPacket_carrier : HasPacket (carrier dstMac srcMac frame src dst) := by
  have hlen := @length_carrier dstMac srcMac frame src dst hpacket h
  obtain ⟨hmin, hmtu⟩ := packet_sendable hpacket h
  simp only [etherMtu] at hmtu
  rw [HasPacket, hlen, ipTotalLen_carrier hpacket h, Nat.mod_eq_of_lt (by omega)]
  exact ⟨by omega, hmtu, Nat.le_refl _⟩

theorem rewritable_carrier :
    Rewritable (packetOf (carrier dstMac srcMac frame src dst))
      (packetOf (carrier dstMac srcMac frame src dst)).length := by
  rw [rewritable_packetOf (hasPacket_carrier hpacket h), ipHeaderLen_carrier hpacket h,
    ipTotalLen_carrier hpacket h]
  exact (rewritable_packetOf hpacket).mp h

/-- Translation does not turn a message into an ICMP error, or an error into
something else. -/
theorem portUnreachable_carrier :
    PortUnreachable (carrier dstMac srcMac frame src dst) ↔ PortUnreachable frame := by
  have hproto := @ipProtocol_carrier dstMac srcMac frame src dst hpacket h
  have hfrag := @ipFragment_carrier dstMac srcMac frame src dst hpacket h
  have hheader := @ipHeaderLen_carrier dstMac srcMac frame src dst hpacket h
  have htotal := @ipTotalLen_carrier dstMac srcMac frame src dst hpacket h
  rw [PortUnreachable, PortUnreachable, hproto, hfrag, hheader, htotal]
  refine and_congr_right fun hicmp => ?_
  obtain ⟨hproto, _, hmin, hroom⟩ := hicmp
  have hnot : Frame.ipProtocol frame = ipv4ProtocolUdp → False :=
    fun hudp => absurd (hproto.symm.trans hudp) (by decide)
  have htype := @byte_carrier dstMac srcMac frame src dst hpacket h (Frame.ipHeaderLen frame)
    (by omega) (Or.inr hmin) fun hudp => (hnot hudp).elim
  have hcode := @byte_carrier dstMac srcMac frame src dst hpacket h (Frame.ipHeaderLen frame + 1)
    (by omega) (by omega) fun hudp => (hnot hudp).elim
  rw [htype, Nat.add_assoc, hcode]

end Carrier

end Grid0Relay
