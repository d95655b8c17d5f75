import Grid0Relay.Relay.Console
import Grid0Relay.Relay.Dhcp
import Grid0Relay.Relay.Gateway

/-!
# The capture handlers

`lan_play_pcap_handler` and `lan_play_zerotier_pcap_handler`, the two relay
functions between them and the fake gateway, the UDP endpoint guard of
`native-udp.c`, and the discovery timer. A captured frame is its bytes: `caplen`
and `len` are both its length.
-/

namespace Grid0Relay

open Lib Lib.Exec

/-! ## UDP endpoints -/

def uvEinval : Int := -22
def uvEnospc : Int := -28
def uvEnomem : Int := -12

/-- `native_udp_guard_reserve`. -/
def nativeUdpGuardReserve (env : Env) (port : Nat) : RelayM Int := do
  let lp ← getLp
  match lp.udpGuard with
  | none => pure uvEinval
  | some guard =>
    if port = 0 then pure uvEinval
    else if port ∈ guard.ports then pure 0
    else if guard.count ≥ maxUdpPorts then pure uvEnospc
    else do
      let allocated ← ask env.calloc
      if !allocated then pure uvEnomem
      else do
        let ret ← ask env.uvUdpInit
        if ret ≠ 0 then pure ret
        else do
          let ret ← ask env.uvUdpBind
          let ret ← (if ret = 0 then ask env.uvUdpRecvStart else pure ret)
          if ret ≠ 0 then pure ret
          else do
            modifyLp fun lp =>
              { lp with udpGuard := some ⟨port :: guard.ports, guard.count + 1⟩ }
            pure 0

/-! ## From Wi-Fi to ZeroTier -/

/-- The ICMP filter of `lan_play_relay_wifi_ipv4`. -/
def isPortUnreachable (frame : Bytes) (ipLen : Nat) : RelayM Bool := do
  let verLen ← readByte frame 14
  let headerLen := (verLen &&& 0x0f).toNat * 4
  let flags ← readNet16 frame (14 + 6)
  let protocol ← readByte frame (14 + 9)
  if protocol = ipv4ProtocolIcmp ∧ flags &&& 0x3fff = 0 ∧ headerLen ≥ 20 ∧
      ipLen ≥ headerLen + 8 then do
    let type ← readByte frame (14 + headerLen)
    let code ← readByte frame (14 + headerLen + 1)
    pure (type == 3 && code == 3)
  else pure false

/-- The one-time broadcast warning of `lan_play_relay_wifi_ipv4`. -/
def warnBroadcastMismatch (frame : Bytes) (ipLen headerLen : Nat) (originalDst dst : Ip4) :
    RelayM Unit := do
  let lp ← getLp
  let protocol ← readByte frame (14 + 9)
  let flags ← readNet16 frame (14 + 6)
  if !lp.warnedBroadcastMismatch ∧ protocol = ipv4ProtocolUdp ∧ ipLen ≥ headerLen + 8 ∧
      flags &&& 0x3fff = 0 then do
    let dstport ← readNet16 frame (14 + headerLen + 2)
    if dstport = 35000 ∧ isNintendoLanBroadcast originalDst ∧ originalDst ≠ dst then
      modifyLp fun lp => { lp with warnedBroadcastMismatch := true }
    else pure ()
  else pure ()

/-- The endpoint reservation of `lan_play_relay_wifi_ipv4`; zero also when the
packet needs none. -/
def reserveSourcePort (env : Env) (frame : Bytes) (ipLen headerLen : Nat) : RelayM Int := do
  let protocol ← readByte frame (14 + 9)
  let flags ← readNet16 frame (14 + 6)
  if protocol = ipv4ProtocolUdp ∧ flags &&& 0x1fff = 0 ∧ ipLen ≥ headerLen + 8 then do
    let port ← readNet16 frame (14 + headerLen)
    nativeUdpGuardReserve env port
  else pure 0

/-- The choice of the sender at the end of `lan_play_relay_wifi_ipv4`. -/
def sendOverlay (env : Env) (broadcast : Bool) (dst : Ip4) (packet : Payload) : RelayM Int :=
  if broadcast then lanPlaySendZerotierIpv4Broadcast env packet
  else lanPlaySendZerotierIpv4 env dst packet

/-- `lan_play_relay_wifi_ipv4`. -/
def lanPlayRelayWifiIpv4 (env : Env) (frame : Bytes) : RelayM Bool := do
  let lp ← getLp
  let frameLen := frame.length % 65536
  if !lp.switchSeen ∨ frameLen < 14 + 20 then pure false
  else do
    let src ← readIp4 frame (14 + 12)
    let ipLen ← readNet16 frame (14 + 2)
    let originalDst ← readIp4 frame (14 + 16)
    if src ≠ lp.switchIp ∨ ipLen > etherMtu ∨ frameLen < 14 + ipLen ∨
        (!isNintendoLanBroadcast originalDst ∧ !isZerotierDestination lp originalDst) then
      pure false
    else do
      let unreachable ← isPortUnreachable frame ipLen
      if unreachable then pure true
      else do
        let translated ← copyRange etherMtu frame 14 ipLen
        let dst := if isNintendoLanBroadcast originalDst then lp.zerotierBroadcastIp
          else originalDst
        let rewritten ← rewriteIpv4Addresses translated ipLen lp.zerotierIp dst
        if !rewritten.1 then pure false
        else do
          let verLen ← readByte frame 14
          let headerLen := (verLen &&& 0x0f).toNat * 4
          warnBroadcastMismatch frame ipLen headerLen originalDst dst
          let ret ← reserveSourcePort env frame ipLen headerLen
          if ret ≠ 0 then pure true
          else do
            let _ ← sendOverlay env (dst = lp.zerotierBroadcastIp) dst ⟨rewritten.2, 0, ipLen⟩
            pure true

/-! ## From ZeroTier to Wi-Fi -/

/-- The delivery probe after a unicast game packet, in `lan_play_relay_zerotier_ipv4`. -/
def probeAfterDelivery (env : Env) (frame : Bytes) (ipLen : Nat) (ret : Int)
    (broadcast : Bool) : RelayM Unit := do
  let verLen ← readByte frame 14
  let headerLen := (verLen &&& 15).toNat * 4
  let protocol ← readByte frame (14 + 9)
  let flags ← readNet16 frame (14 + 6)
  if ret = 0 ∧ !broadcast ∧ protocol = ipv4ProtocolUdp ∧ flags &&& 0x3fff = 0 ∧
      ipLen ≥ headerLen + 8 then do
    let dstport ← readNet16 frame (14 + headerLen + 2)
    if dstport = 35000 then probeWifiDelivery env else pure ()
  else pure ()

/-- `lan_play_relay_zerotier_ipv4`. -/
def lanPlayRelayZerotierIpv4 (env : Env) (frame : Bytes) : RelayM Bool := do
  let lp ← getLp
  let frameLen := frame.length % 65536
  if !lp.switchSeen ∨ frameLen < 14 + 20 then pure false
  else do
    let ipLen ← readNet16 frame (14 + 2)
    let originalDst ← readIp4 frame (14 + 16)
    let broadcast := decide (originalDst = lp.zerotierBroadcastIp)
    let forSwitch := !broadcast && decide (originalDst = lp.switchIp)
    if ipLen > etherMtu ∨ frameLen < 14 + ipLen ∨
        (!broadcast ∧ originalDst ≠ lp.zerotierIp ∧ !forSwitch) then pure false
    else do
      modifyLp fun lp =>
        { lp with warnedDirectSwitchDelivery := lp.warnedDirectSwitchDelivery || forSwitch }
      let translated ← copyRange etherMtu frame 14 ipLen
      let dst := if broadcast then lp.zerotierBroadcastIp else lp.switchIp
      let src ← readIp4 frame (14 + 12)
      let rewritten ← rewriteIpv4Addresses translated ipLen src dst
      if !rewritten.1 then pure false
      else do
        let ret ← lanPlaySendWifiIpv4 env (if broadcast then broadcastMac else lp.switchMac)
          ⟨rewritten.2, 0, ipLen⟩
        probeAfterDelivery env frame ipLen ret broadcast
        pure true

/-! ## The handlers -/

/-- `diagnostic_count_rx`. -/
def diagnosticCountRx (zerotier : Bool) (frame : Bytes) : RelayM Unit :=
  if frame.length < 14 then pure ()
  else do
    let type ← readNet16 frame 12
    if type = etherTypeArp then
      modifyLp fun lp =>
        if zerotier then { lp with zerotierArpRx := lp.zerotierArpRx + 1 }
        else { lp with wifiArpRx := lp.wifiArpRx + 1 }
    else if type = etherTypeIpv4 then
      modifyLp fun lp =>
        if zerotier then { lp with zerotierIpv4Rx := lp.zerotierIpv4Rx + 1 }
        else { lp with wifiIpv4Rx := lp.wifiIpv4Rx + 1 }
    else pure ()

/-- `packet_set_mac`. -/
def packetSetMac (mac : Mac) : RelayM Unit := modifyPacketCtx fun c => { c with mac }

/-- Try a relay function on an IPv4 frame, as both handlers do. -/
def relayIpv4 (relay : Bytes → RelayM Bool) (frame : Bytes) : RelayM Bool :=
  if frame.length ≥ 14 + 20 then do
    let type ← readNet16 frame 12
    if type = etherTypeIpv4 then relay frame else pure false
  else pure false

/-- The end of `lan_play_pcap_handler`, for a frame of the console. -/
def serveConsole (env : Env) (mac : Mac) (frame : Bytes) : RelayM Unit := do
  packetSetMac mac
  let relayed ← relayIpv4 (lanPlayRelayWifiIpv4 env) frame
  if relayed then pure () else getPacket env frame

/-- `lan_play_pcap_handler` once the frame is counted. -/
def wifiInput (env : Env) (mac : Mac) (frame : Bytes) : RelayM Unit := do
  let replied ← consumeWifiDeliveryReply frame
  if replied then pure ()
  else do
    let consumed ← dhcpServerConsume env frame
    if consumed then pure ()
    else do
      let learned ← learnLocalSwitch env frame
      if !learned then pure () else serveConsole env mac frame

/-- `lan_play_pcap_handler`; `mac` is the address of the Wi-Fi adapter. -/
def lanPlayPcapHandler (env : Env) (mac : Mac) (frame : Bytes) : RelayM Unit :=
  if frame.length < 14 then pure ()
  else do
    let src ← readMac frame 6
    if src = mac then diagnosticLogFrame env frame
    else do
      modifyLp fun lp => { lp with ingressZerotier := false }
      diagnosticCountRx false frame
      diagnosticLogFrame env frame
      wifiInput env mac frame

/-- `peer_ip` of `lan_play_zerotier_pcap_handler`. -/
def peerIp (frame : Bytes) : RelayM (Option Ip4) := do
  let type ← readNet16 frame 12
  if type = etherTypeIpv4 ∧ frame.length ≥ 14 + 20 then do
    let verLen ← readByte frame 14
    if verLen >>> 4 = 4 then do
      let ip ← readIp4 frame (14 + 12)
      pure (some ip)
    else pure none
  else if type = etherTypeArp ∧ frame.length ≥ 14 + 28 then do
    let hardware ← readNet16 frame 14
    let protocol ← readNet16 frame (14 + 2)
    let hardwareSize ← readByte frame (14 + 4)
    let protocolSize ← readByte frame (14 + 5)
    let senderMac ← readMac frame (14 + 8)
    let etherSrc ← readMac frame 6
    if hardware = 1 ∧ protocol = etherTypeIpv4 ∧ hardwareSize = 6 ∧ protocolSize = 4 ∧
        senderMac = etherSrc then do
      let ip ← readIp4 frame (14 + 14)
      pure (some ip)
    else pure none
  else pure none

/-- The neighbour learning of `lan_play_zerotier_pcap_handler`. -/
def learnNeighbor (env : Env) (frame : Bytes) : RelayM Unit := do
  let lp ← getLp
  let peer ← peerIp frame
  let etherSrc ← readMac frame 6
  match peer with
  | none => pure ()
  | some ip =>
    if isZerotierDestination lp ip ∧ ip ≠ lp.zerotierIp ∧ ip ≠ lp.zerotierBroadcastIp ∧
        octet etherSrc 0 &&& 1 = 0 then do
      let _ ← arpSet env .zerotierNeighbors etherSrc ip
      pure ()
    else pure ()

/-- The end of `lan_play_zerotier_pcap_handler`: relay or gateway. -/
def zerotierInput (env : Env) (frame : Bytes) : RelayM Unit := do
  let relayed ← relayIpv4 (lanPlayRelayZerotierIpv4 env) frame
  if relayed then modifyLp fun lp => { lp with ingressZerotier := false }
  else do
    getPacket env frame
    modifyLp fun lp => { lp with ingressZerotier := false }

/-- `lan_play_zerotier_pcap_handler`; `mac` is the address of the ZeroTier adapter. -/
def lanPlayZerotierPcapHandler (env : Env) (mac : Mac) (frame : Bytes) : RelayM Unit :=
  if frame.length < 14 then pure ()
  else do
    let src ← readMac frame 6
    if src = mac then diagnosticLogFrame env frame
    else do
      learnNeighbor env frame
      modifyLp fun lp => { lp with ingressZerotier := true }
      diagnosticCountRx true frame
      diagnosticLogFrame env frame
      packetSetMac mac
      zerotierInput env frame

/-! ## Discovery -/

/-- `lan_play_send_wifi_arp_probe`. -/
def lanPlaySendWifiArpProbe (env : Env) (targetIp senderIp : Ip4) : RelayM Int := do
  modifyLp fun lp => { lp with wifiProbeTx := lp.wifiProbeTx + 1 }
  let lp ← getLp
  uvPcapSendpacket env .wifi (etherHeader broadcastMac lp.wifiMac etherTypeArp ++
    arpBody arpOpcodeRequest lp.wifiMac senderIp noneMac targetIp)

/-- The advance of the sweep at the end of `switch_discovery_timer_cb`. -/
def advanceDiscovery (wifiPhase : Bool) (lp : LanPlay) : LanPlay :=
  let host := lp.switchDiscoveryHost + 1
  if host = 0 ∨ host = 255 then
    if wifiPhase then { lp with switchDiscoveryHost := 2, switchDiscoveryWifiPhase := false }
    else
      { lp with
        switchDiscoveryHost := 2
        switchDiscoveryWifiPhase := lp.wifiSubnetKnown
        switchDiscoveryPauseTicks := 600 }
  else { lp with switchDiscoveryHost := host }

/-- `switch_discovery_timer_cb`. -/
def switchDiscoveryTimerCb (env : Env) : RelayM Unit := do
  let lp ← getLp
  if lp.switchSeen then pure ()
  else if lp.switchDiscoveryPauseTicks ≠ 0 then
    modifyLp fun lp => { lp with switchDiscoveryPauseTicks := lp.switchDiscoveryPauseTicks - 1 }
  else do
    let wifiPhase := lp.switchDiscoveryWifiPhase && lp.wifiSubnetKnown
    let base := if wifiPhase then lp.wifiIp else lp.packetCtx.subnetNet
    let senderIp := if wifiPhase then lp.wifiIp else lp.packetCtx.ip
    let targetIp := base.setIfInBounds 3 lp.switchDiscoveryHost
    let _ ← (if wifiPhase ∧ octet targetIp 3 = octet lp.wifiIp 3 then pure 0
      else lanPlaySendWifiArpProbe env targetIp senderIp)
    modifyLp (advanceDiscovery wifiPhase)

end Grid0Relay
