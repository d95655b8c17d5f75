import Grid0Relay.Logic.Checksums
import Grid0Relay.Theorems.Bounds

/-!
# The UDP proxy

What the console sends through the gateway as UDP, and what comes back.
`gateway::processUdp` takes the length of the payload from the captured frame, not from
the headers, so a datagram arrives whole only in a frame that ends where it ends. A
datagram from the Internet is put into the relay's send buffer, whose size nothing
checks before `send_payloads` does.
-/

namespace Grid0Relay

open Lib Lib.Exec

/-! ## From the console -/

/-- The frames of Wi-Fi that `process_ipv4` hands to `gateway_on_packet`: of the console,
declined by the relay function, addressed to the adapter, for nobody the relay knows. -/
structure ReachesGateway (options : Options) (mac : Mac) (lp : LanPlay) (frame : Bytes) : Prop where
  fromConsole : FromConsole options mac lp frame
  captured : frame.length < 65536
  declined : ¬ TakenByRelay lp frame
  notGateway : Frame.ipDst frame ≠ lp.packetCtx.ip
  notNintendo : ¬ isNintendoLanBroadcast (Frame.ipDst frame)
  notSubnet : ¬ isSubnet (Frame.ipDst frame) lp.packetCtx.subnetNet lp.packetCtx.subnetMask
  toAdapter : Frame.etherDst frame = mac

/-- A whole UDP datagram, as its headers have it. -/
def UdpDatagram (frame : Bytes) : Prop :=
  Frame.ipProtocol frame = ipv4ProtocolUdp ∧ Frame.ipFragment frame &&& 0x3fff = 0 ∧
    8 ≤ udpLen frame ∧ Frame.ipHeaderLen frame + udpLen frame ≤ Frame.ipTotalLen frame
deriving Decidable

/-- The datagram: the addresses, the ports and the payload up to the UDP length. -/
def datagramOf (frame : Bytes) : UdpSend where
  src := Frame.ipSrc frame
  srcport := srcPort frame
  dst := Frame.ipDst frame
  dstport := dstPort frame
  payload := frame.slice (14 + Frame.ipHeaderLen frame + 8) (udpLen frame - 8)

/-- A packet without a UDP header: too short for one, or a later fragment. -/
def NoUdpHeader (frame : Bytes) : Prop :=
  Frame.ipTotalLen frame < Frame.ipHeaderLen frame + 8 ∨ Frame.ipFragment frame &&& 0x1fff ≠ 0
deriving Decidable

/-- A datagram is handed to the proxy as it is, and a packet without a UDP header is
not. -/
def Extracted (frame : Bytes) (w : World) (r : EStateM.Result Fault World Unit) : Prop :=
  (UdpDatagram frame → ∃ w', r = .ok () w' ∧ w'.proxied = w.proxied ++ [datagramOf frame]) ∧
    (NoUdpHeader frame → ∃ w', r = .ok () w' ∧ w'.proxied = w.proxied)

/-- Such a frame gets to `gateway_on_packet`, and nothing is sent to the proxy before. -/
theorem ReachesGateway.run {env : Env} {mac : Mac} {w : World} {frame : Bytes}
    (h : ReachesGateway env.options mac w.lp frame) :
    ∃ d, d.proxied = w.proxied ∧
      lanPlayPcapHandler env mac frame w = discard (gatewayOnPacket env frame d) := by
  have hwell := h.fromConsole.wellFormed
  obtain ⟨w', hentered, hrun⟩ := handler_served h.fromConsole.1 h.fromConsole.2.1
  have hfor : ¬ ForOverlay w'.lp frame := fun hfor =>
    h.declined ((hentered.forOverlay hwell).mp hfor)
  let d := ((w'.setMac mac).download frame).learnArp env .packetCtx (Frame.etherSrc frame)
    (Frame.ipSrc frame)
  have hgw : Frame.ipDst frame ≠ d.lp.packetCtx.ip := by
    rw [show d.lp.packetCtx.ip = _ from congrArg Config.gatewayIp hentered.config]
    exact h.notGateway
  have hsub : ¬ isSubnet (Frame.ipDst frame) d.lp.packetCtx.subnetNet
      d.lp.packetCtx.subnetMask = true := by
    rw [show d.lp.packetCtx.subnetNet = _ from congrArg Config.subnetNet hentered.config,
      show d.lp.packetCtx.subnetMask = _ from congrArg Config.subnetMask hentered.config]
    exact h.notSubnet
  have hdst : (ipv4Of frame).dst = Frame.ipDst frame := rfl
  have hmac : d.lp.packetCtx.mac = Frame.etherDst frame := h.toAdapter.symm
  refine ⟨d, hentered.proxied, ?_⟩
  rw [hrun, serveConsole_gateway hwell.1 hwell.2.1 hfor,
    getPacket_ipv4 hwell.1 hwell.2.1 h.captured fun hown => h.fromConsole.1 (Or.inr hown)]
  show discard (dispatchIpv4 env frame (ipv4Of frame) (Frame.etherDst frame) d) = _
  simp only [dispatchIpv4, bind_apply, getLp_apply, hdst, if_neg hgw, if_neg h.notNintendo,
    if_neg hsub, if_pos hmac]
  cases gatewayOnPacket env frame d <;> rfl

/-- What the proxy gets of a datagram is the datagram, if the frame ends with it. -/
theorem proxiedOf_eq_datagramOf {frame : Bytes} (h : UdpDatagram frame)
    (hinside : 14 + Frame.ipTotalLen frame ≤ frame.length) :
    proxiedOf frame = datagramOf frame ↔
      frame.length = 14 + Frame.ipHeaderLen frame + udpLen frame := by
  obtain ⟨-, -, hmin, hfits⟩ := h
  constructor
  · intro heq
    have hlen := congrArg List.length (congrArg UdpSend.payload heq)
    simp only [proxiedOf, datagramOf, Bytes.length_slice] at hlen
    omega
  · intro hend
    have hlen : frame.length - 14 - Frame.ipHeaderLen frame - 8 = udpLen frame - 8 := by omega
    rw [proxiedOf, datagramOf, hlen]

/-- **Gateway UDP extraction.** For a frame that reaches the gateway, the proxy gets the
datagrams and only those exactly when a UDP packet has a UDP header and its frame ends
where the datagram ends. -/
theorem gateway_udp_iff (env : Env) (mac : Mac) (w : World) (frame : Bytes)
    (h : ReachesGateway env.options mac w.lp frame) :
    Extracted frame w (lanPlayPcapHandler env mac frame w) ↔
      (Frame.ipProtocol frame = ipv4ProtocolUdp → ¬ NoUdpHeader frame ∧
        (UdpDatagram frame → frame.length = 14 + Frame.ipHeaderLen frame + udpLen frame)) := by
  obtain ⟨-, hmin, hversion, -, -, hinside⟩ := h.fromConsole.wellFormed
  obtain ⟨d, hproxied, hrun⟩ := h.run
  rw [hrun, gatewayOnPacket_eq env frame d hmin h.captured]
  by_cases hudp : Frame.ipProtocol frame = ipv4ProtocolUdp
  swap
  · -- anything else is for lwIP
    obtain ⟨w', -, hout, -, -, hkept⟩ := gatewayOutput_sent env (lwipAnswer env d.asked frame)
      { d with asked := d.asked + 1 }
    rw [if_neg fun hproxy : ForProxy frame => hudp hproxy.2, hout]
    refine iff_of_true ⟨fun hdatagram => absurd hdatagram.1 hudp, fun _ => ?_⟩
      fun h => absurd h hudp
    exact ⟨w', rfl, hkept.trans hproxied⟩
  rw [if_pos (show ForProxy frame from ⟨hversion, hudp⟩)]
  by_cases hroom : 14 + Frame.ipHeaderLen frame + 8 ≤ frame.length
  · rw [if_pos hroom]
    constructor
    · rintro ⟨hdatagrams, hothers⟩ -
      refine ⟨fun hnone => ?_, fun hdatagram => ?_⟩
      · obtain ⟨w', hok, hkept⟩ := hothers hnone
        injection hok with _ hok
        rw [← hok, ← hproxied] at hkept
        exact absurd hkept (by simp)
      · obtain ⟨w', hok, hsent⟩ := hdatagrams hdatagram
        injection hok with _ hok
        rw [← hok, ← hproxied] at hsent
        refine (proxiedOf_eq_datagramOf hdatagram (by omega)).mp ?_
        exact List.singleton_inj.mp (List.append_cancel_left hsent)
    · intro hexact
      obtain ⟨hheader, hend⟩ := hexact hudp
      refine ⟨fun hdatagram => ⟨_, rfl, ?_⟩, fun hnone => absurd hnone hheader⟩
      rw [(proxiedOf_eq_datagramOf hdatagram (by omega)).mpr (hend hdatagram), ← hproxied]
  · -- the ports are read behind the frame
    have hnone : NoUdpHeader frame := Or.inl (by omega)
    rw [if_neg hroom]
    refine iff_of_false (fun hextracted => ?_) fun hexact => (hexact hudp).1 hnone
    obtain ⟨w', hok, -⟩ := hextracted.2 hnone
    cases hok

/-- A UDP packet of the console to 8.8.8.8, in a frame with this padding. -/
def udpFrame (payload padding : Bytes) : Bytes :=
  etherHeader (mac6 0x02 0 0 0 0 0x10) (mac6 0x98 0xb6 0xe9 1 2 3) etherTypeIpv4 ++
    ipv4Header (28 + payload.length) 0 ipv4ProtocolUdp (ip4 10 147 17 20) (ip4 8 8 8 8) ++
    (Bytes.bytes16 40000 ++ Bytes.bytes16 53 ++ Bytes.bytes16 (8 + payload.length) ++
      Bytes.bytes16 0) ++ payload ++ padding

/-- Eighteen bytes fill the shortest Ethernet frame. -/
def fullFrame : Bytes := udpFrame (List.replicate 18 7) []

/-- Four bytes are padded. -/
def paddedFrame : Bytes := udpFrame [1, 2, 3, 4] (List.replicate 14 0)

/-- The conditions as one test, for a relay that serves no DHCP. -/
theorem ReachesGateway.of_test {options : Options} {mac : Mac} {lp : LanPlay} {frame : Bytes}
    (h : (¬ Skipped mac frame ∧ Frame.etherType frame = etherTypeIpv4) ∧
      (¬ DeliveryReply lp frame ∧ ¬ (options.dhcpServer ∧ lp.wifiSubnetKnown) ∧
        Acceptable lp frame ∧ (lp.switchSeen → senderIp frame = lp.switchIp)) ∧
      frame.length < 65536 ∧ ¬ TakenByRelay lp frame ∧ Frame.ipDst frame ≠ lp.packetCtx.ip ∧
      ¬ isNintendoLanBroadcast (Frame.ipDst frame) ∧
      ¬ isSubnet (Frame.ipDst frame) lp.packetCtx.subnetNet lp.packetCtx.subnetMask ∧
      Frame.etherDst frame = mac) : ReachesGateway options mac lp frame := by
  obtain ⟨⟨skipped, type⟩, ⟨reply, dhcp, acceptable, sender⟩, captured, declined, gateway, nintendo,
    subnet, adapter⟩ := h
  exact ⟨⟨skipped, ⟨reply, Or.inl dhcp, acceptable, sender⟩, type⟩, captured, declined, gateway,
    nintendo, subnet, adapter⟩

theorem reachesGateway_fullFrame :
    ReachesGateway (calmEnv 1010).options consoleWorld.lp.wifiMac consoleWorld.lp fullFrame :=
  .of_test (by decide +kernel)

theorem gateway_udp_iff_full :
    UdpDatagram fullFrame ∧ Extracted fullFrame consoleWorld
      (lanPlayPcapHandler (calmEnv 1010) consoleWorld.lp.wifiMac fullFrame consoleWorld) := by
  refine ⟨by decide, ?_⟩
  refine (gateway_udp_iff (calmEnv 1010) consoleWorld.lp.wifiMac consoleWorld fullFrame
    reachesGateway_fullFrame).mpr fun _ => ?_
  exact ⟨by decide, fun _ => by decide⟩

/-- The proxy gets fourteen bytes of padding with the four of the datagram. -/
theorem padding_proxied :
    Reachable consoleWorld ∧
      ReachesGateway (calmEnv 1010).options consoleWorld.lp.wifiMac consoleWorld.lp paddedFrame ∧
      UdpDatagram paddedFrame ∧ (datagramOf paddedFrame).payload = [1, 2, 3, 4] ∧
      ((after (lanPlayPcapHandler (calmEnv 1010) consoleWorld.lp.wifiMac paddedFrame
        consoleWorld)).proxied.map UdpSend.payload) =
          [[1, 2, 3, 4] ++ List.replicate 14 0] := by
  exact ⟨consoleWorld_reachable, .of_test (by decide +kernel), by decide +kernel⟩

/-! ## From the Internet -/

section Reply

variable {env : Env} {src dst : Ip4} {srcport dstport : Nat} {part : Bytes} {w : World}

/-- A single part has no other to lose its place in. -/
theorem sentChecksum_part (h : part.length < 65536) :
    ∃ c, sentChecksum src srcport dst dstport [part] = pure c := by
  refine ⟨_, calcPayloadChecksum_aligned ((aligned_headers ..).mpr trivial) ?_⟩
  simp only [List.flatten_cons, List.flatten_nil, List.length_append, length_pseudoHeader,
    length_udpHeader, List.length_nil]
  omega

/-- The parts `send_ipv4_ex` gets. -/
def udpParts (srcport dstport checksum : Nat) (part : Bytes) : List Payload :=
  [Payload.whole (udpHeader srcport dstport (udpLength [part]) checksum), Payload.whole part]

theorem sum_udpParts (srcport dstport checksum : Nat) (part : Bytes) :
    ((udpParts srcport dstport checksum part).map Payload.len).sum = 8 + part.length := by
  simp [udpParts, Payload.whole]

theorem sendUdpEx_part (h : part.length < 65536) :
    ∃ c, sendUdpEx env src srcport dst dstport [part] =
      sendIpv4Ex env src dst ipv4ProtocolUdp (udpParts srcport dstport c part) := by
  obtain ⟨c, hc⟩ := @sentChecksum_part src dst srcport dstport part h
  refine ⟨c, ?_⟩
  rw [sendUdpEx, hc, pure_bind]
  rfl

/-- A datagram for an unknown address becomes an ARP request. -/
theorem sendUdpEx_unknown (h : part.length < 65536)
    (hfound : w.lp.packetCtx.arpList.lookup dst (env.clock w.readings) = none) :
    ∃ w', sendUdpEx env src srcport dst dstport [part] w = .ok 0 w' ∧
      w'.sent = w.sent ++ [⟨.wifi, arpRequestFrame w.lp dst⟩] := by
  obtain ⟨c, hc⟩ := @sendUdpEx_part env src dst srcport dstport part h
  exact ⟨_, by rw [hc, sendIpv4Ex_unknown hfound], rfl⟩

section Known

variable {item : ArpItem}
  (hfound : w.lp.packetCtx.arpList.lookup dst (env.clock w.readings) = some item)
include hfound

/-- One that does not fit reaches the assertion. -/
theorem sendUdpEx_full (h : part.length < 65536) (hfull : 2006 ≤ part.length) :
    ∃ w', sendUdpEx env src srcport dst dstport [part] w = .error .assertion w' := by
  obtain ⟨c, hc⟩ := @sendUdpEx_part env src dst srcport dstport part h
  obtain ⟨w', hrun, -⟩ := @sendIpv4Ex_full env src dst ipv4ProtocolUdp
    (udpParts srcport dstport c part) w item hfound (by simp [udpParts])
    (by rw [sum_udpParts, bufferSize]; omega)
  exact ⟨w', hc ▸ hrun⟩

/-- One that fits is sent behind its three headers. -/
theorem sendUdpEx_fits (hfits : part.length < 2006) :
    ∃ ret w' c, sendUdpEx env src srcport dst dstport [part] w = .ok ret w' ∧
      w'.sent = w.sent ++ [⟨.wifi, etherHeader item.mac w.lp.packetCtx.mac etherTypeIpv4 ++
        (ipv4Header (28 + part.length) w.lp.packetCtx.identification ipv4ProtocolUdp src dst ++
          (udpHeader srcport dstport (8 + part.length) c ++ part))⟩] := by
  obtain ⟨c, hc⟩ := @sendUdpEx_part env src dst srcport dstport part (by omega)
  have hlength : udpLength [part] = 8 + part.length := by
    simp only [udpLength, payloadTotalLen, List.map_cons, List.map_nil, List.sum_cons,
      List.sum_nil, Payload.whole]
    omega
  have htotal : (20 + payloadTotalLen (udpParts srcport dstport c part)) % 65536 =
      28 + part.length := by
    rw [payloadTotalLen, sum_udpParts]
    omega
  obtain ⟨ret, w', hrun, hsent⟩ := @sendIpv4Ex_ok env src dst ipv4ProtocolUdp
    (udpParts srcport dstport c part) w item hfound (by simp [udpParts])
    (by rw [sum_udpParts, bufferSize]; omega)
  refine ⟨ret, w', c, hc ▸ hrun, ?_⟩
  rw [hsent, htotal]
  simp only [udpParts, hlength, List.flatMap_cons, List.flatMap_nil, Payload.bytes_whole,
    List.append_nil]

end Known

end Reply

/-- The length fields of an IPv4 frame that carries a datagram of `n` bytes. -/
def TrueLengths (n : Nat) (frame : Bytes) : Prop :=
  Frame.etherType frame = etherTypeIpv4 →
    Frame.ipTotalLen frame = 28 + n ∧ frame.net16 (34 + 4) = 8 + n ∧ frame.length = 42 + n

/-- A callback for a datagram of `n` bytes does not reach the `assert(0)` of
`send_payloads`, and what it injects has the true lengths. -/
def RelayedWhole (n : Nat) (w : World) (r : EStateM.Result Fault World Unit) : Prop :=
  (∀ w', r ≠ .error .assertion w') ∧ ∀ i ∈ newFrames w (after r), TrueLengths n i.frame

theorem trueLengths_frame (dstMac srcMac : Mac) (id : UInt16) (src dst : Ip4)
    (srcport dstport c : Nat) {part : Bytes} (h : part.length < 2006) :
    TrueLengths part.length (etherHeader dstMac srcMac etherTypeIpv4 ++
      (ipv4Header (28 + part.length) id ipv4ProtocolUdp src dst ++
        (udpHeader srcport dstport (8 + part.length) c ++ part))) := by
  refine fun _ => ⟨?_, ?_, ?_⟩
  · rw [Frame.ipTotalLen, Bytes.net16_append_right (by simp), length_etherHeader,
      Bytes.net16_append_left (by simp), totalLen_ipv4Header (by omega)]
  · rw [Bytes.net16_append_right (by simp), length_etherHeader,
      Bytes.net16_append_right (by simp), length_ipv4Header, Bytes.net16_append_left (by simp)]
    exact (Bytes.net16_bytes16 _).trans (Nat.mod_eq_of_lt (by omega))
  · simp only [List.length_append, length_etherHeader, length_ipv4Header, length_udpHeader]
    omega

theorem relayedWhole_sent {n : Nat} {w w' : World} {i : Injection} (h : w'.sent = w.sent ++ [i]) :
    RelayedWhole n w (.ok () w') ↔ TrueLengths n i.frame := by
  have hno : ∀ w'', (.ok () w' : EStateM.Result Fault World Unit) ≠ .error .assertion w'' :=
    fun _ h => by cases h
  rw [RelayedWhole, after_ok, newFrames_append h, List.forall_mem_singleton]
  exact and_iff_right hno

/-- What both callbacks do with a datagram of `n` bytes, whose length is a `uint16_t`. -/
theorem relayedWhole_iff {env : Env} {fromIp src : Ip4} {fromPort srcport n : Nat} {part : Bytes}
    {w : World} (hpart : part.length = n % 65536) :
    RelayedWhole n w ((sendUdpEx env fromIp fromPort src srcport [part] >>= fun _ =>
        timeNull env >>= fun _ => pure ()) w) ↔
      w.lp.packetCtx.arpList.lookup src (env.clock w.readings) = none ∨ n < 2006 := by
  have hlt : part.length < 65536 := by omega
  cases hfound : w.lp.packetCtx.arpList.lookup src (env.clock w.readings) with
  | none =>
    obtain ⟨w', hrun, hsent⟩ := @sendUdpEx_unknown env fromIp src fromPort srcport part w hlt hfound
    rw [bind_ok hrun]
    refine iff_of_true ((relayedWhole_sent (show (w'.tick env).sent = _ from hsent)).mpr fun htype => ?_)
      (Or.inl rfl)
    exact absurd ((etherType_etherHeader _ _ _ _ (by decide)).symm.trans htype) (by decide)
  | some item =>
    by_cases hfits : part.length < 2006
    · obtain ⟨ret, w', c, hrun, hsent⟩ :=
        @sendUdpEx_fits env fromIp src fromPort srcport part w item hfound hfits
      rw [bind_ok hrun]
      refine (relayedWhole_sent (show (w'.tick env).sent = _ from hsent)).trans ⟨fun hlengths => ?_, ?_⟩
      · obtain ⟨-, -, hlen⟩ := hlengths (etherType_etherHeader _ _ _ _ (by decide))
        simp only [List.length_append, length_etherHeader, length_ipv4Header,
          length_udpHeader] at hlen
        exact Or.inr (by omega)
      · rintro (hnone | hn)
        · cases hnone
        obtain rfl : part.length = n := by omega
        exact trueLengths_frame _ _ _ _ _ _ _ _ hfits
    · obtain ⟨w', hrun⟩ := @sendUdpEx_full env fromIp src fromPort srcport part w item hfound hlt
        (by omega)
      rw [bind_error hrun]
      refine iff_of_false (fun h => h.1 w' rfl) ?_
      rintro (hnone | hn)
      · cases hnone
      · omega

/-- **Proxied replies.** A datagram from the Internet is relayed whole exactly when the
console's MAC is not known at the moment, so that it is dropped for an ARP request, or when
it fits into the send buffer with its headers. -/
theorem proxied_reply_iff (env : Env) (src : Ip4) (srcport : Nat) (w : World) :
    (∀ (fromIp : Ip4) (fromPort : Nat) (data : Bytes),
      RelayedWhole data.length w (directProxyRecv env src srcport fromIp fromPort data w) ↔
        w.lp.packetCtx.arpList.lookup src (env.clock w.readings) = none ∨ data.length < 2006) ∧
    ∀ data : Bytes, 10 ≤ data.length →
      (RelayedWhole (data.length - 10) w (socks5ProxyRecv env src srcport data w) ↔
        data.byte 3 ≠ 1 ∨ w.lp.packetCtx.arpList.lookup src (env.clock w.readings) = none ∨
          data.length - 10 < 2006) := by
  refine ⟨fun fromIp fromPort data => ?_, fun data hmin => ?_⟩
  · rw [directProxyRecv, readRange_ok (by omega), pure_bind]
    exact relayedWhole_iff (by rw [Bytes.length_slice]; omega)
  · rw [socks5ProxyRecv, readByte_ok (by omega), pure_bind]
    by_cases hatyp : data.byte 3 = 1
    · rw [if_neg (not_not.mpr hatyp), readIp4_ok (by omega), pure_bind, readNet16_ok (by omega),
        pure_bind, readRange_ok (by omega), pure_bind, relayedWhole_iff (n := data.length - 10)
          (by rw [Bytes.length_slice]; omega)]
      exact (or_iff_right (not_not.mpr hatyp)).symm
    · rw [if_pos hatyp]
      refine iff_of_true ⟨fun _ h => (by cases h), ?_⟩ (Or.inl hatyp)
      simp [newFrames]

theorem proxied_reply_iff_small :
    RelayedWhole 4 consoleWorld (directProxyRecv (calmEnv 1010) (ip4 10 147 17 20) 40000
      (ip4 8 8 8 8) 53 [1, 2, 3, 4] consoleWorld) ∧
    RelayedWhole 2 consoleWorld (socks5ProxyRecv (calmEnv 1010) (ip4 10 147 17 20) 40000
      [0, 0, 0, 1, 8, 8, 8, 8, 0, 53, 1, 2] consoleWorld) := by
  obtain ⟨hdirect, hsocks⟩ := proxied_reply_iff (calmEnv 1010) (ip4 10 147 17 20) 40000 consoleWorld
  refine ⟨(hdirect _ _ [1, 2, 3, 4]).mpr (Or.inr (by decide)), ?_⟩
  exact (hsocks [0, 0, 0, 1, 8, 8, 8, 8, 0, 53, 1, 2] (by decide)).mpr
    (Or.inr (Or.inr (by decide)))

theorem directProxyRecv_full {env : Env} {src fromIp : Ip4} {srcport fromPort : Nat} {data : Bytes}
    {w : World} (hfound : (w.lp.packetCtx.arpList.lookup src (env.clock w.readings)).isSome)
    (hfull : 2006 ≤ data.length % 65536) :
    ∃ w', directProxyRecv env src srcport fromIp fromPort data w = .error .assertion w' := by
  obtain ⟨item, hitem⟩ := Option.isSome_iff_exists.mp hfound
  obtain ⟨w', hrun⟩ := @sendUdpEx_full env fromIp src fromPort srcport
    (data.slice 0 (data.length % 65536)) w item hitem (by rw [Bytes.length_slice]; omega)
    (by rw [Bytes.length_slice]; omega)
  refine ⟨w', ?_⟩
  rw [directProxyRecv, readRange_ok (by omega), pure_bind]
  exact bind_error hrun

/-- A datagram of 2006 bytes from a host the console has talked to ends the relay. -/
theorem large_reply_asserts :
    Reachable consoleWorld ∧
      ∃ w', directProxyRecv (calmEnv 1010) (ip4 10 147 17 20) 40000 (ip4 8 8 8 8) 53
        (List.replicate 2006 0) consoleWorld = .error .assertion w' := by
  refine ⟨consoleWorld_reachable, directProxyRecv_full (by decide +kernel) ?_⟩
  rw [List.length_replicate]

end Grid0Relay
