import Grid0Relay.Logic.Dhcp
import Grid0Relay.Logic.Environments
import Grid0Relay.Logic.Probe
import Grid0Relay.Logic.Transport

/-!
# The delivery probe

An echo reply is described here the way a host makes one, from the request alone.
The relay takes every such reply to its own request, however late it comes. It tells
the replies by the MAC it sent the request to, and what it does not take is ordinary
traffic of the console.
-/

namespace Grid0Relay

open Lib Lib.Exec Lib.OnesComplement

/-! ## Echo messages -/

/-- An ICMP echo message in a whole IPv4 packet, both checksums right. Padding may
follow the packet. -/
structure Echo (kind : UInt8) (ip : Bytes) : Prop where
  version : ip.byte 0 >>> 4 = 4
  header : 20 ≤ headerLen ip
  total : headerLen ip + 8 ≤ totalLen ip
  inside : totalLen ip ≤ ip.length
  whole : ip.net16 6 &&& 0x3fff = 0
  protocol : ip.byte 9 = ipv4ProtocolIcmp
  headerSum : fold (wordSum (ip.slice 0 (headerLen ip))) = 0xffff
  icmpSum : fold (wordSum (dataOf ip)) = 0xffff
  type : (dataOf ip).byte 0 = kind
  code : (dataOf ip).byte 1 = 0

/-- The identifier, the sequence number and the payload of an echo message. -/
def echoData (ip : Bytes) : Bytes := (dataOf ip).drop 4

/-- A frame a host answers an echo request with: the addresses are swapped and the data
comes back. -/
structure EchoReply (request reply : Bytes) : Prop where
  etherType : Frame.etherType reply = etherTypeIpv4
  etherSrc : Frame.etherSrc reply = Frame.etherDst request
  etherDst : Frame.etherDst reply = Frame.etherSrc request
  echo : Echo 0 (reply.drop 14)
  ipSrc : Frame.ipSrc reply = Frame.ipDst request
  ipDst : Frame.ipDst reply = Frame.ipSrc request
  data : echoData (reply.drop 14) = echoData (request.drop 14)

theorem length_dataOf_inside {ip : Bytes} (h : totalLen ip ≤ ip.length) :
    (dataOf ip).length = totalLen ip - headerLen ip := by
  rw [dataOf, Bytes.length_slice]
  omega

/-! ## The request -/

/-- The header of the probe before its addresses are filled in. -/
def probeHeader : Bytes :=
  [0x45, 0] ++ Bytes.bytes16 44 ++ [0, 0, 0, 0, 64, 1, 0, 0] ++ [0, 0, 0, 0] ++ [0, 0, 0, 0]

/-- Its ICMP message before the checksum. -/
def probeIcmp (payload : Vector UInt8 16) : Bytes :=
  [8, 0, 0, 0] ++ Bytes.bytes16 0x5a4c ++ Bytes.bytes16 1 ++ payload.toList

/-- What it carries behind the checksum. -/
def probeData (payload : Vector UInt8 16) : Bytes :=
  Bytes.bytes16 0x5a4c ++ Bytes.bytes16 1 ++ payload.toList

section Request

variable (payload : Vector UInt8 16)

/-- The ICMP message as it is sent. -/
def sealedIcmp : Bytes :=
  (probeIcmp payload).put 2 (Bytes.bytes16 (ipv4HeaderChecksum (probeIcmp payload)))

theorem probePacket_eq : probePacket payload = probeHeader ++ sealedIcmp payload := rfl

theorem length_probeIcmp : (probeIcmp payload).length = 24 := by simp [probeIcmp]

theorem length_sealedIcmp : (sealedIcmp payload).length = 24 := by
  rw [sealedIcmp, Bytes.length_put (by rw [length_probeIcmp]; simp), length_probeIcmp]

theorem byte_probePacket {i : Nat} (h : i < 20) :
    (probePacket payload).byte i = probeHeader.byte i := by
  rw [probePacket_eq, Bytes.byte_append_left (by simpa [probeHeader] using h)]

theorem headerLen_probePacket : headerLen (probePacket payload) = 20 := by
  rw [headerLen, byte_probePacket payload (by decide)]
  decide

theorem totalLen_probePacket : totalLen (probePacket payload) = 44 := by
  rw [totalLen, Bytes.net16, byte_probePacket payload (by decide),
    byte_probePacket payload (by decide)]
  decide

theorem dataOf_probePacket : dataOf (probePacket payload) = sealedIcmp payload := by
  have hlen := length_sealedIcmp payload
  rw [dataOf, headerLen_probePacket, totalLen_probePacket, probePacket_eq, Bytes.slice,
    List.drop_left' (by decide), List.take_of_length_le (by omega)]

theorem sealedIcmp_eq : sealedIcmp payload =
    [8, 0] ++ Bytes.bytes16 (ipv4HeaderChecksum (probeIcmp payload)) ++ probeData payload := rfl

theorem ipv4HeaderChecksum_sealedIcmp : ipv4HeaderChecksum (sealedIcmp payload) = 0 := by
  have hlen := length_probeIcmp payload
  have hfield : (probeIcmp payload).net16 2 = 0 := by simp [probeIcmp, Bytes.net16, Bytes.byte]
  exact ipv4HeaderChecksum_put rfl (by omega) (by omega) hfield

end Request

theorem drop_request (a : Awaited) :
    a.request.drop 14 = translate (probePacket a.payload) a.source a.ip := by
  rw [Awaited.request, List.drop_left' (length_etherHeader _ _ _)]

theorem dataOf_request (a : Awaited) : dataOf (a.request.drop 14) = sealedIcmp a.payload := by
  have hno : ¬ HasUdp (probePacket a.payload) := by
    rintro ⟨hprotocol, -⟩
    rw [byte_probePacket a.payload (by decide)] at hprotocol
    exact absurd hprotocol (by decide)
  rw [drop_request, dataOf_translate (rewritable_probePacket _) hno, dataOf_probePacket]

theorem byte_request (a : Awaited) {i : Nat} (h : i < 10) :
    Bytes.byte (a.request.drop 14) i = probeHeader.byte i := by
  have hheader := headerLen_probePacket a.payload
  rw [drop_request, byte_translate (rewritable_probePacket _) (by omega) (by omega),
    byte_probePacket a.payload (by omega)]

/-- The request is an echo request. -/
theorem echo_request (a : Awaited) : Echo 8 (a.request.drop 14) := by
  have hrewrite := rewritable_probePacket a.payload
  have hheader : headerLen (a.request.drop 14) = 20 := by
    rw [drop_request, headerLen_translate hrewrite, headerLen_probePacket]
  have htotal : totalLen (a.request.drop 14) = 44 := by
    rw [drop_request, totalLen_translate hrewrite, totalLen_probePacket]
  have hlen : (a.request.drop 14).length = 44 := by
    rw [drop_request, length_translate hrewrite, length_probePacket]
  refine ⟨?_, by omega, by omega, by omega, ?_, ?_, ?_, ?_, ?_, ?_⟩
  · rw [byte_request a (by decide)]
    decide
  · rw [Bytes.net16, byte_request a (by decide), byte_request a (by decide)]
    decide
  · rw [byte_request a (by decide)]
    decide
  · rw [← ipv4HeaderChecksum_eq_zero (by rw [Bytes.length_slice]; omega), hheader, drop_request,
      ← headerLen_probePacket a.payload, ipv4HeaderChecksum_translate hrewrite]
  · rw [dataOf_request, ← ipv4HeaderChecksum_eq_zero (by rw [length_sealedIcmp]; omega),
      ipv4HeaderChecksum_sealedIcmp]
  · rw [dataOf_request]
    rfl
  · rw [dataOf_request]
    rfl

/-! ## The reply -/

/-- A checksum-valid echo reply from the probed address with the probe's identifier,
sequence number and payload. -/
structure ProbeAnswer (lp : LanPlay) (frame : Bytes) : Prop where
  sent : lp.wifiDeliveryProbeSent
  etherType : Frame.etherType frame = etherTypeIpv4
  echo : Echo 0 (frame.drop 14)
  ipSrc : Frame.ipSrc frame = lp.wifiDeliveryProbeIp
  data : echoData (frame.drop 14) = probeData lp.wifiDeliveryProbePayload

section Reply

variable {lp : LanPlay} {frame : Bytes}

theorem headerLen_drop (frame : Bytes) : headerLen (frame.drop 14) = Frame.ipHeaderLen frame := by
  rw [headerLen, Bytes.byte_drop]
  rfl

theorem totalLen_drop (frame : Bytes) : totalLen (frame.drop 14) = Frame.ipTotalLen frame := by
  rw [totalLen, Bytes.net16, Bytes.byte_drop, Bytes.byte_drop]
  rfl

theorem ProbeAnswer.totalLen (h : ProbeAnswer lp frame) :
    Frame.ipTotalLen frame = Frame.ipHeaderLen frame + 24 := by
  have hdata := congrArg List.length h.data
  have htotal := h.echo.total
  rw [echoData, List.length_drop, length_dataOf_inside h.echo.inside] at hdata
  rw [← totalLen_drop, ← headerLen_drop]
  simp [probeData] at hdata
  omega

/-- It is taken just when it comes from the MAC that was probed, to the addresses the
probe came from. -/
theorem ProbeAnswer.taken (h : ProbeAnswer lp frame) :
    DeliveryReply lp frame ↔ Frame.etherSrc frame = lp.wifiDeliveryProbeMac ∧
      Frame.etherDst frame = lp.wifiMac ∧ Frame.ipDst frame = probeSource lp := by
  have hecho := h.echo
  have htotal := h.totalLen
  have hheader : 20 ≤ Frame.ipHeaderLen frame := headerLen_drop frame ▸ hecho.header
  have hinside : Frame.ipTotalLen frame ≤ frame.length - 14 := by
    rw [← totalLen_drop, ← List.length_drop]
    exact hecho.inside
  have hicmp : frame.slice (14 + Frame.ipHeaderLen frame) 24 = dataOf (frame.drop 14) := by
    rw [dataOf, headerLen_drop, totalLen_drop, htotal, Bytes.slice, Bytes.slice, List.drop_drop,
      Nat.add_sub_cancel_left]
  have hbytes : frame.slice 14 (Frame.ipHeaderLen frame) =
      Bytes.slice (frame.drop 14) 0 (headerLen (frame.drop 14)) := by
    rw [headerLen_drop, Bytes.slice, Bytes.slice, List.drop_zero]
  have hlen : (dataOf (frame.drop 14)).length = 24 := by
    rw [length_dataOf_inside hecho.inside, headerLen_drop, totalLen_drop]
    omega
  -- the fields behind the checksum are the probe's
  have htail : ∀ i, Bytes.net16 (dataOf (frame.drop 14)) (4 + i) =
      (probeData lp.wifiDeliveryProbePayload).net16 i := by
    intro i
    rw [← h.data, echoData, Bytes.net16, Bytes.net16, Bytes.byte_drop, Bytes.byte_drop,
      Nat.add_assoc]
  have hpayload : Bytes.vecAt 16 (dataOf (frame.drop 14)) 8 = lp.wifiDeliveryProbePayload := by
    have hfield : (probeData lp.wifiDeliveryProbePayload).vecAt 16 4 =
        lp.wifiDeliveryProbePayload := by
      rw [probeData, ← List.append_nil (Vector.toList _)]
      exact Bytes.vecAt_append_at _ _ rfl
    rw [← hfield, Bytes.vecAt_eq_iff]
    intro i _
    rw [← h.data, echoData, Bytes.byte_drop, ← Nat.add_assoc]
  constructor
  · rintro ⟨-, -, ⟨-, hsrc, hdst⟩, ⟨-, -, -, -, -, -, -, hip⟩, -⟩
    exact ⟨hsrc, hdst, hip⟩
  · rintro ⟨hsrc, hdst, hip⟩
    refine ⟨h.sent, by omega, ⟨h.etherType, hsrc, hdst⟩, ⟨?_, hheader, htotal, hinside, ?_, ?_,
      h.ipSrc, hip⟩, ?_⟩
    · have hversion := hecho.version
      rwa [Bytes.byte_drop] at hversion
    · have hprotocol := hecho.protocol
      rwa [Bytes.byte_drop] at hprotocol
    · have hwhole := hecho.whole
      rwa [Bytes.net16, Bytes.byte_drop, Bytes.byte_drop] at hwhole
    · rw [hicmp, hbytes]
      refine ⟨hecho.type, hecho.code, ?_, ?_, ?_, ?_, ?_⟩
      · rw [htail 0]
        simp [probeData, Bytes.net16, Bytes.byte, Bytes.bytes16]
      · rw [htail 2]
        simp [probeData, Bytes.net16, Bytes.byte, Bytes.bytes16]
      · exact hpayload
      · have hle := Frame.ipHeaderLen_le frame
        refine (ipv4HeaderChecksum_eq_zero ?_).mpr hecho.headerSum
        rw [Bytes.length_slice, headerLen_drop]
        omega
      · exact (ipv4HeaderChecksum_eq_zero (by omega)).mpr hecho.icmpSum

/-- A reply a host sends to the request is one. -/
theorem EchoReply.probeAnswer {frame : Bytes} (h : EchoReply lp.awaited.request frame)
    (sent : lp.wifiDeliveryProbeSent) : ProbeAnswer lp frame where
  sent := sent
  etherType := h.etherType
  echo := h.echo
  ipSrc := by
    rw [h.ipSrc, Awaited.request, ipDst_etherHeader, dst_translate (rewritable_probePacket _)]
    rfl
  data := by
    rw [h.data, echoData, dataOf_request, sealedIcmp_eq]
    rfl

/-- And it is taken. -/
theorem EchoReply.deliveryReply {frame : Bytes} (h : EchoReply lp.awaited.request frame)
    (sent : lp.wifiDeliveryProbeSent) : DeliveryReply lp frame := by
  refine (h.probeAnswer sent).taken.mpr ⟨?_, ?_, ?_⟩
  · rw [h.etherSrc, Awaited.request, etherDst_etherHeader]
    rfl
  · rw [h.etherDst, Awaited.request, etherSrc_etherHeader]
    rfl
  · rw [h.ipDst, Awaited.request, ipSrc_etherHeader, src_translate (rewritable_probePacket _)]
    rfl

end Reply

/-! ## One request

`learn_local_switch` and `lan_play_relay_zerotier_ipv4` are the functions that probe.
-/

section Once

variable {env : Env} {frame : Bytes} {w : World} (sent : w.lp.wifiDeliveryProbeSent)
include sent

theorem newFrames_learnLocalSwitch : newFrames w (after (learnLocalSwitch env frame w)) = [] := by
  obtain ⟨learned, w', hrun, hlearned⟩ := learnLocalSwitch_learned env frame w
  rw [hrun, after_ok]
  refine newFrames_nil ?_
  cases hlearned with
  | rejected _ | conflict _ _ _ _ _ | again _ _ _ _ => rfl
  | adopted _ _ =>
    rw [World.adopt, if_pos sent]
    rfl

theorem newFrames_lanPlayRelayZerotierIpv4 :
    newFrames w (after (lanPlayRelayZerotierIpv4 env frame w)) =
      if Deliverable w.lp frame then [⟨.wifi, deliveredFrame w.lp frame⟩] else [] := by
  split
  · rename_i h
    rw [lanPlayRelayZerotierIpv4_delivered env frame w h, after_ok, World.deliver,
      if_neg fun hprobe => hprobe.2.2.2 sent]
    exact newFrames_append rfl
  · rename_i h
    obtain ⟨warned, hrun⟩ := lanPlayRelayZerotierIpv4_declined env frame w h
    rw [hrun, after_ok]
    exact newFrames_nil rfl

end Once

/-- **Probe round trip.** A callback that has the probe sent puts an echo request on
Wi-Fi. Whatever the session does next, a reply a host makes from that request is taken,
and no second request is sent: of the functions that probe, one sends nothing any more
and the other the packet it delivers. -/
theorem delivery_probe_round_trip {w : World} (reachable : Reachable w) (env : Env) (event : Event)
    (unsent : ¬ w.lp.wifiDeliveryProbeSent)
    (sent : (after (handle env event w)).lp.wifiDeliveryProbeSent) :
    ∃ request, ⟨.wifi, request⟩ ∈ newFrames w (after (handle env event w)) ∧
      request = (after (handle env event w)).lp.awaited.request ∧ Echo 8 (request.drop 14) ∧
      ∀ w', Session (after (handle env event w)) w' →
        (∀ reply, EchoReply request reply → consumeWifiDeliveryReply reply w' =
          .ok true { w' with lp := { w'.lp with wifiDeliveryProbeReplied := true } }) ∧
        ∀ env', probeWifiDelivery env' w' = .ok () w' ∧ ∀ frame,
          newFrames w' (after (learnLocalSwitch env' frame w')) = [] ∧
          newFrames w' (after (lanPlayRelayZerotierIpv4 env' frame w')) =
            if Deliverable w'.lp frame then [⟨.wifi, deliveredFrame w'.lp frame⟩] else [] := by
  have hseen : w.lp.switchSeen = false := by
    rw [Process.seenProbed reachable]
    simpa using unsent
  have hok : ProbeOk w.lp :=
    ⟨Process.seenProbed reachable, fun h => absurd h (by simp [hseen]),
      fun h => absurd h (by simp [hseen])⟩
  have hstep : Probed w (after (handle env event w)) := steps_handle env event w
  obtain ⟨frames, hframes, hnew⟩ := hstep.sends
  refine ⟨_, ?_, rfl, echo_request _, fun w' hsession => ?_⟩
  · rw [newFrames_append hframes]
    exact hnew hok unsent sent
  · obtain ⟨hsent, hsame⟩ := hsession.probed.kept (hstep.ok hok) sent
    refine ⟨fun reply hreply => ?_, fun env' => ⟨?_, fun frame =>
      ⟨newFrames_learnLocalSwitch hsent, newFrames_lanPlayRelayZerotierIpv4 hsent⟩⟩⟩
    · rw [← hsame] at hreply
      rw [consumeWifiDeliveryReply_eq, if_pos (hreply.deliveryReply hsent)]
    · rw [probeWifiDelivery_eq, if_pos hsent]

/-- The packet with which a console at 10.147.17.20 answers its probe: an identification,
a DF bit, a type of service and a TTL of its own, and two bytes of padding. -/
def answerPacket : Bytes :=
  let header : Bytes := [0x45, 0x10] ++ Bytes.bytes16 44 ++ Bytes.bytes16 0x1234 ++
    Bytes.bytes16 0x4000 ++ [57, 1, 0, 0] ++ (ip4 10 147 17 20).toList ++ (ip4 10 147 17 1).toList
  let icmp : Bytes := [0, 0, 0, 0] ++ probeData (probePayload (Vector.replicate 8 0))
  sealHeader header 20 ++ icmp.put 2 (Bytes.bytes16 (ipv4HeaderChecksum icmp)) ++ [0, 0]

/-- The answer as it arrives from this MAC. -/
def answerFrame (src : Mac) : Bytes :=
  etherHeader (mac6 0x02 0 0 0 0 0x10) src etherTypeIpv4 ++ answerPacket

theorem drop_answerFrame (src : Mac) : (answerFrame src).drop 14 = answerPacket :=
  List.drop_left' (length_etherHeader _ _ _)

theorem echo_answerPacket : Echo 0 answerPacket := by
  refine ⟨?_, ?_, ?_, ?_, ?_, ?_, ?_, ?_, ?_, ?_⟩ <;> decide

theorem echoReply_answerFrame :
    EchoReply consoleWorld.lp.awaited.request (answerFrame (mac6 0x98 0xb6 0xe9 1 2 3)) := by
  have hfields : (Frame.etherType (answerFrame (mac6 0x98 0xb6 0xe9 1 2 3)) = etherTypeIpv4 ∧
      Frame.etherSrc (answerFrame (mac6 0x98 0xb6 0xe9 1 2 3)) =
        Frame.etherDst consoleWorld.lp.awaited.request ∧
      Frame.etherDst (answerFrame (mac6 0x98 0xb6 0xe9 1 2 3)) =
        Frame.etherSrc consoleWorld.lp.awaited.request) ∧
      Frame.ipSrc (answerFrame (mac6 0x98 0xb6 0xe9 1 2 3)) =
        Frame.ipDst consoleWorld.lp.awaited.request ∧
      Frame.ipDst (answerFrame (mac6 0x98 0xb6 0xe9 1 2 3)) =
        Frame.ipSrc consoleWorld.lp.awaited.request ∧
      echoData ((answerFrame (mac6 0x98 0xb6 0xe9 1 2 3)).drop 14) =
        echoData (consoleWorld.lp.awaited.request.drop 14) := by decide +kernel
  obtain ⟨⟨type, src, dst⟩, ipSrc, ipDst, data⟩ := hfields
  exact ⟨type, src, dst, drop_answerFrame _ ▸ echo_answerPacket, ipSrc, ipDst, data⟩

/-- The console says hello and is probed, says hello again, and its answer is taken. -/
theorem delivery_probe_round_trip_hello :
    ⟨.wifi, consoleWorld.lp.awaited.request⟩ ∈ newFrames plainWorld consoleWorld ∧
      ∃ w', consumeWifiDeliveryReply (answerFrame (mac6 0x98 0xb6 0xe9 1 2 3))
        (after (handle (calmEnv 1010) (.wifi helloFrame) consoleWorld)) = .ok true w' := by
  have hround := delivery_probe_round_trip plainWorld_reachable (calmEnv 1000) (.wifi helloFrame)
    (by decide +kernel) (by decide +kernel)
  rw [show after (handle (calmEnv 1000) (.wifi helloFrame) plainWorld) = consoleWorld from rfl]
    at hround
  obtain ⟨request, hmem, hrequest, -, hsession⟩ := hround
  rw [hrequest] at hmem hsession
  have hlater : Session consoleWorld (after (handle (calmEnv 1010) (.wifi helloFrame) consoleWorld)) :=
    .event .here _ _
  exact ⟨hmem, _, (hsession _ hlater).1 _ echoReply_answerFrame⟩

/-! ## Replies that are not taken -/

/-- A reply that is not taken, is taken for the console's, and is for the overlay. -/
structure Strays (mac : Mac) (lp : LanPlay) (frame : Bytes) : Prop where
  looked : Frame.etherSrc frame ≠ mac
  elsewhere : ¬ (Frame.etherSrc frame = lp.wifiDeliveryProbeMac ∧
    Frame.etherDst frame = lp.wifiMac ∧ Frame.ipDst frame = probeSource lp)
  acceptable : Acceptable lp frame
  console : lp.switchSeen → Frame.ipSrc frame = lp.switchIp
  overlay : HasPacket frame ∧ (isNintendoLanBroadcast (Frame.ipDst frame) ∨
      isZerotierDestination lp (Frame.ipDst frame)) ∨
    frame.length < 65536 ∧ Frame.ipTotalLen frame ≤ etherMtu ∧
      Frame.ipDst frame ≠ lp.packetCtx.ip ∧
      isSubnet (Frame.ipDst frame) lp.packetCtx.subnetNet lp.packetCtx.subnetMask

section Strays

variable {mac : Mac} {lp : LanPlay} {frame : Bytes} (h : ProbeAnswer lp frame)
include h

theorem ProbeAnswer.protocol : Frame.ipProtocol frame = ipv4ProtocolIcmp := by
  have hprotocol := h.echo.protocol
  rwa [Bytes.byte_drop] at hprotocol

theorem ProbeAnswer.not_udp : Frame.ipProtocol frame ≠ ipv4ProtocolUdp :=
  fun hudp => absurd (h.protocol.symm.trans hudp) (by decide)

theorem ProbeAnswer.notDhcp : NotDhcp frame := by
  intro w
  rw [dhcpParse_eq, if_neg fun hheader => h.not_udp hheader.2.2.1.2.2.2.2, pure_apply]

theorem ProbeAnswer.not_unreachable : ¬ PortUnreachable frame := by
  rintro ⟨-, htype, -⟩
  have hkind := h.echo.type
  rw [byte_dataOf (by have := h.echo.total; omega), Bytes.byte_drop, headerLen_drop, Nat.add_zero,
    htype] at hkind
  exact absurd hkind (by decide)

theorem ProbeAnswer.endpointPossible : EndpointPossible lp frame :=
  fun hneeds => absurd hneeds.1 h.not_udp

theorem ProbeAnswer.senderIp_eq : senderIp frame = Frame.ipSrc frame :=
  if_neg fun harp => etherTypeIpv4_ne_arp (h.etherType.symm.trans harp)

theorem ProbeAnswer.length : 14 ≤ frame.length := by
  have hinside := h.echo.inside
  have htotal := h.echo.total
  rw [List.length_drop] at hinside
  omega

/-- Such a reply is one that leaves on one of the two paths. -/
theorem ProbeAnswer.strays (options : Options) :
    Strays mac lp frame ↔ Relayed options mac lp frame ∨ Untranslated options mac lp frame := by
  constructor
  · intro hstrays
    have hfrom : FromConsole options mac lp frame := by
      refine ⟨?_, ⟨fun hreply => hstrays.elsewhere (h.taken.mp hreply), Or.inr h.notDhcp,
        hstrays.acceptable, ?_⟩, h.etherType⟩
      · rintro (hshort | hown)
        · exact absurd h.length (by omega)
        · exact hstrays.looked hown
      · rw [h.senderIp_eq]
        exact hstrays.console
    by_cases hdst : isNintendoLanBroadcast (Frame.ipDst frame) ∨
        isZerotierDestination lp (Frame.ipDst frame)
    · refine Or.inl ⟨hfrom, ?_, hdst, h.not_unreachable, h.endpointPossible⟩
      rcases hstrays.overlay with ⟨hpacket, -⟩ | ⟨hmax, hmtu, -, -⟩
      · exact hpacket
      · exact hfrom.wellFormed.hasPacket hmax hmtu
    · obtain ⟨-, hover⟩ | ⟨hmax, hmtu, hgw, hsub⟩ := hstrays.overlay
      · exact absurd hover hdst
      · exact Or.inr ⟨hfrom, hmax, hmtu, hgw, fun hnin => hdst (Or.inl hnin), hsub,
          fun hzt => hdst (Or.inr hzt)⟩
  · intro hleaves
    have hfrom : FromConsole options mac lp frame := hleaves.elim (fun h => h.1) fun h => h.1
    obtain ⟨hskip, ⟨hreply, -, hacc, hconsole⟩, -⟩ := hfrom
    rw [h.senderIp_eq] at hconsole
    refine ⟨fun hown => hskip (Or.inr hown), fun htaken => hreply (h.taken.mpr htaken), hacc,
      hconsole, ?_⟩
    rcases hleaves with ⟨-, hpacket, hdst, -⟩ | ⟨-, hmax, hmtu, hgw, -, hsub, -⟩
    · exact Or.inl ⟨hpacket, hdst⟩
    · exact Or.inr ⟨hmax, hmtu, hgw, hsub⟩

end Strays

/-- **The probe stays local.** A matching echo reply puts nothing on ZeroTier exactly when
it does not stray: it comes from the MAC that was probed to the addresses the probe came
from, or the relay does not take it for a packet of the console to the overlay. -/
theorem probe_answer_local_iff (mac : Mac) (w : World) (frame : Bytes)
    (h : ProbeAnswer w.lp frame) :
    (∀ env : Env, ∀ i ∈ newFrames w (after (lanPlayPcapHandler env mac frame w)),
      i.iface ≠ .zerotier) ↔ ¬ Strays mac w.lp frame := by
  constructor
  · intro hall hstrays
    -- in a calm environment it leaves
    obtain ⟨frames, hover, ip, dst, rfl⟩ : ∃ frames,
        Overlays frames w (after (lanPlayPcapHandler (calmEnv 0) mac frame w)) ∧
          ∃ ip, Carries w.lp ip frames := by
      rcases (h.strays (calmEnv 0).options).mp hstrays with hrelayed | huntranslated
      · obtain ⟨frames, hover, hcarries⟩ := hrelayed.leaves (calm_calmEnv 0 (calmEnv 0).options)
        exact ⟨frames, hover, _, hcarries⟩
      · obtain ⟨frames, hover, hcarries⟩ :=
          huntranslated.leaves (calm_calmEnv 0 (calmEnv 0).options)
        exact ⟨frames, hover, _, hcarries⟩
    have hmem := hover.newFrames ▸ List.mem_singleton_self (⟨.zerotier, zerotierFrame w.lp dst ip⟩ :
      Injection)
    exact hall (calmEnv 0) _ (List.mem_of_mem_filter hmem) rfl
  · intro hno env i hi hiface
    have hneither := not_or.mp fun hleaves => hno ((h.strays env.options).mpr hleaves)
    obtain ⟨frames, hframes, hwifi⟩ := handler_silent env h.etherType hneither.1 hneither.2
    rw [newFrames_append hframes] at hi
    exact absurd ((hwifi i hi).symm.trans hiface) (by decide)

theorem probeAnswer_answerFrame (src : Mac) : ProbeAnswer consoleWorld.lp (answerFrame src) where
  sent := by decide +kernel
  etherType := etherType_etherHeader _ _ _ _ (by decide)
  echo := drop_answerFrame src ▸ echo_answerPacket
  ipSrc := by
    rw [answerFrame, ipSrc_etherHeader]
    decide +kernel
  data := by
    rw [drop_answerFrame]
    decide +kernel

/-- The answer from the MAC that was probed. -/
theorem probe_answer_local_iff_console :
    ¬ ∃ i ∈ newFrames consoleWorld (after (lanPlayPcapHandler (calmEnv 1010)
      consoleWorld.lp.wifiMac (answerFrame (mac6 0x98 0xb6 0xe9 1 2 3)) consoleWorld)),
        i.iface = .zerotier := by
  rintro ⟨i, hi, hiface⟩
  refine (probe_answer_local_iff consoleWorld.lp.wifiMac consoleWorld
    (answerFrame (mac6 0x98 0xb6 0xe9 1 2 3)) (probeAnswer_answerFrame _)).mpr ?_ _ i hi hiface
  intro hstrays
  exact hstrays.elsewhere (by decide +kernel)

/-- The same answer through a bridge with a MAC of its own leaves on the overlay. -/
theorem probe_answer_strays :
    Reachable consoleWorld ∧
      ProbeAnswer consoleWorld.lp (answerFrame (mac6 0x98 0xb6 0xe9 9 9 9)) ∧
      (newFrames consoleWorld (after (lanPlayPcapHandler (calmEnv 1010) consoleWorld.lp.wifiMac
        (answerFrame (mac6 0x98 0xb6 0xe9 9 9 9)) consoleWorld))).map Injection.iface =
          [.zerotier, .zerotier] :=
  ⟨consoleWorld_reachable, probeAnswer_answerFrame _, by decide +kernel⟩

end Grid0Relay
