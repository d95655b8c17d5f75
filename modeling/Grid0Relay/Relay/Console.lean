import Grid0Relay.Relay.NintendoOui
import Grid0Relay.Relay.Transmit

/-!
# Finding the console

`learn_local_switch` picks the one console the relay serves out of the Wi-Fi
traffic, `probe_wifi_delivery` sends the diagnostic echo that follows, and
`consume_wifi_delivery_reply` takes the answer out of the stream.
-/

namespace Grid0Relay

open Lib Lib.Exec

/-! ## The delivery probe -/

/-- `"ZLLPROBE"` and the eight bytes of the nonce. -/
def probePayload (nonce : Vector UInt8 8) : Vector UInt8 16 :=
  (#v[0x5a, 0x4c, 0x4c, 0x50, 0x52, 0x4f, 0x42, 0x45] : Vector UInt8 8) ++ nonce

/-- The 44-byte echo request before its addresses are filled in. -/
def probePacket (payload : Vector UInt8 16) : Bytes :=
  let icmp : Bytes := [8, 0, 0, 0] ++ Bytes.bytes16 0x5a4c ++ Bytes.bytes16 1 ++ payload.toList
  [0x45, 0] ++ Bytes.bytes16 44 ++ [0, 0, 0, 0, 64, 1, 0, 0] ++ [0, 0, 0, 0] ++ [0, 0, 0, 0] ++
    icmp.put 2 (Bytes.bytes16 (ipv4HeaderChecksum icmp))

/-- The address the probe is sent from and its reply comes back to. -/
def probeSource (lp : LanPlay) : Ip4 := if lp.switchDhcp then lp.wifiIp else lp.packetCtx.ip

/-- `probe_wifi_delivery`. -/
def probeWifiDelivery (env : Env) : RelayM Unit := do
  let lp ← getLp
  if lp.wifiDeliveryProbeSent then pure ()
  else do
    let nonce ← ask env.hrtime
    let payload := probePayload nonce
    let rewritten ← rewriteIpv4Addresses (probePacket payload) 44 (probeSource lp) lp.switchIp
    modifyLp fun lp =>
      { lp with
        wifiDeliveryProbePayload := payload
        wifiDeliveryProbeIp := lp.switchIp
        wifiDeliveryProbeMac := lp.switchMac
        wifiDeliveryProbeSent := true }
    let _ ← lanPlaySendWifiIpv4 env lp.switchMac (Payload.whole rewritten.2)
    pure ()

/-- `consume_wifi_delivery_reply`. -/
def consumeWifiDeliveryReply (frame : Bytes) : RelayM Bool := do
  let lp ← getLp
  if !lp.wifiDeliveryProbeSent ∨ frame.length < 14 + 44 then pure false
  else do
    let type ← readNet16 frame 12
    let etherSrc ← readMac frame 6
    let etherDst ← readMac frame 0
    if ¬ (type = etherTypeIpv4 ∧ etherSrc = lp.wifiDeliveryProbeMac ∧
        etherDst = lp.wifiMac) then pure false
    else do
      let verLen ← readByte frame 14
      let hlen := (verLen &&& 15).toNat * 4
      let total ← readNet16 frame (14 + 2)
      let protocol ← readByte frame (14 + 9)
      let flags ← readNet16 frame (14 + 6)
      let src ← readIp4 frame (14 + 12)
      let dst ← readIp4 frame (14 + 16)
      if ¬ (verLen >>> 4 = 4 ∧ 20 ≤ hlen ∧ total = hlen + 24 ∧ total ≤ frame.length - 14 ∧
          protocol = ipv4ProtocolIcmp ∧ flags &&& 0x3fff = 0 ∧ src = lp.wifiDeliveryProbeIp ∧
          dst = probeSource lp) then pure false
      else do
        let icmp ← readRange frame (14 + hlen) 24
        let header ← readRange frame 14 hlen
        if ¬ (icmp.byte 0 = 0 ∧ icmp.byte 1 = 0 ∧ icmp.net16 4 = 0x5a4c ∧ icmp.net16 6 = 1 ∧
            icmp.vecAt 16 8 = lp.wifiDeliveryProbePayload ∧ ipv4HeaderChecksum header = 0 ∧
            ipv4HeaderChecksum icmp = 0) then pure false
        else do
          modifyLp fun lp => { lp with wifiDeliveryProbeReplied := true }
          pure true

/-! ## Learning -/

/-- The frame checks of `learn_local_switch`: the sender address it takes from a
frame and whether the frame is direct evidence of the sender's MAC. -/
def learnSender (lp : LanPlay) (frame : Bytes) : RelayM (Option (Ip4 × Bool)) :=
  if frame.length < 14 then pure none
  else do
    let mac ← readMac frame 6
    if ¬ (octet mac 0 &&& 1 = 0 ∧ mac ≠ noneMac) then pure none
    else do
      let type ← readNet16 frame 12
      if type = etherTypeArp then
        if frame.length < 14 + 28 then pure none
        else do
          let hardware ← readNet16 frame 14
          let protocol ← readNet16 frame (14 + 2)
          let hardwareSize ← readByte frame (14 + 4)
          let protocolSize ← readByte frame (14 + 5)
          let opcode ← readNet16 frame (14 + 6)
          let senderMac ← readMac frame (14 + 8)
          let ip ← readIp4 frame (14 + 14)
          if hardware = 1 ∧ protocol = etherTypeIpv4 ∧ hardwareSize = 6 ∧ protocolSize = 4 ∧
              (opcode = arpOpcodeRequest ∨ opcode = arpOpcodeReply) ∧ senderMac = mac then
            pure (some (ip, true))
          else pure none
      else if type = etherTypeIpv4 then
        if frame.length < 14 + 20 then pure none
        else do
          let verLen ← readByte frame 14
          let header := (verLen &&& 15).toNat * 4
          let total ← readNet16 frame (14 + 2)
          if verLen >>> 4 = 4 ∧ 20 ≤ header ∧ header ≤ total ∧ total ≤ frame.length - 14 then do
            let ip ← readIp4 frame (14 + 12)
            let etherDst ← readMac frame 0
            let dst ← readIp4 frame (14 + 16)
            pure (some (ip, decide (etherDst = broadcastMac ∧
              (dst = lp.zerotierBroadcastIp ∨ isNintendoLanBroadcast dst))))
          else pure none
      else pure none

/-- The part of an address outside a netmask. -/
def hostIp (ip mask : Ip4) : Ip4 := bytewise (fun a m => a &&& ~~~m) ip mask

/-- `wifi_dest` of `learn_local_switch`. -/
def wifiDest (lp : LanPlay) (ip : Ip4) : Bool :=
  lp.wifiSubnetKnown && ipInSubnet ip lp.wifiSubnet lp.wifiNetmask

/-- `dhcp` of `learn_local_switch`: the console has an address of the Wi-Fi subnet. -/
def dhcpCandidate (lp : LanPlay) (ip : Ip4) : Bool :=
  wifiDest lp ip && !isZerotierDestination lp ip

/-- The address checks of `learn_local_switch` up to the comparison with the
console already learned. -/
def switchAddressOk (lp : LanPlay) (mac : Mac) (ip : Ip4) : Bool :=
  (isZerotierDestination lp ip || wifiDest lp ip) && ip != lp.zerotierBroadcastIp &&
    ip != lp.packetCtx.ip &&
    !(wifiDest lp ip && (ip == lp.wifiBroadcast || ip == lp.wifiSubnet)) &&
    hostIp ip lp.zerotierNetmask != noneIp && (!dhcpCandidate lp ip || isNintendoMac mac)

/-- `learn_local_switch`. -/
def learnLocalSwitch (env : Env) (frame : Bytes) : RelayM Bool := do
  let lp ← getLp
  let sender ← learnSender lp frame
  match sender with
  | none => pure false
  | some (ip, direct) => do
    let mac ← readMac frame 6
    if !switchAddressOk lp mac ip then pure false
    else if lp.switchSeen ∧ ip ≠ lp.switchIp then pure false
    else
      let changed := !lp.switchSeen || mac != lp.switchMac
      if lp.switchSeen ∧ changed ∧ (lp.switchMacConfirmed ∨ !direct) then do
        modifyLp fun lp => { lp with switchMacConflicts := lp.switchMacConflicts + 1 }
        pure true
      else do
        modifyLp fun lp =>
          { lp with
            switchIp := ip
            switchMac := mac
            switchSeen := true
            switchMacConfirmed := lp.switchMacConfirmed || direct }
        if changed then do
          let _ ← arpSet env .packetCtx mac ip
          modifyLp fun lp =>
            { lp with
              switchDhcp := dhcpCandidate lp ip
              switchNintendoOui := lp.switchNintendoOui || isNintendoMac mac }
          probeWifiDelivery env
          pure true
        else pure true

end Grid0Relay
