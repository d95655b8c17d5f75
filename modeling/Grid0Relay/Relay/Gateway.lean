import Grid0Relay.Relay.Transmit

/-!
# The fake gateway

`get_packet` and what it reaches: proxy ARP (`arp.c`), the IPv4 switch of
`ipv4.c`, ping replies (`icmp.c`) and the hand-over to lwIP or the UDP proxy
(`gateway.cpp`). Both handlers of the relay end here with every frame their own
relay function declined. Nothing in these functions looks at the captured
length before reading a header.
-/

namespace Grid0Relay

open Lib Lib.Exec

/-! ## ARP -/

/-- `struct arp`. -/
structure Arp where
  hardwareType : Nat
  protocolType : Nat
  hardwareSize : UInt8
  protocolSize : UInt8
  opcode : Nat
  senderMac : Mac
  senderIp : Ip4
  targetMac : Mac
  targetIp : Ip4

/-- `parse_arp`. -/
def parseArp (frame : Bytes) : RelayM Arp := do
  let hardwareType ← readNet16 frame 14
  let protocolType ← readNet16 frame (14 + 2)
  let hardwareSize ← readByte frame (14 + 4)
  let protocolSize ← readByte frame (14 + 5)
  let opcode ← readNet16 frame (14 + 6)
  let senderMac ← readMac frame (14 + 8)
  let senderIp ← readIp4 frame (14 + 14)
  let targetMac ← readMac frame (14 + 18)
  let targetIp ← readIp4 frame (14 + 24)
  pure { hardwareType, protocolType, hardwareSize, protocolSize, opcode, senderMac, senderIp,
         targetMac, targetIp }

theorem reads_parseArp (frame : Bytes) : Reads (parseArp frame) := by
  refine reads_bind (reads_readNet16 _ _) fun _ => reads_bind (reads_readNet16 _ _) fun _ => ?_
  refine reads_bind (reads_readByte _ _) fun _ => reads_bind (reads_readByte _ _) fun _ => ?_
  refine reads_bind (reads_readNet16 _ _) fun _ => reads_bind (reads_readMac _ _) fun _ => ?_
  refine reads_bind (reads_readIp4 _ _) fun _ => reads_bind (reads_readMac _ _) fun _ => ?_
  exact reads_bind (reads_readIp4 _ _) fun _ => reads_pure _

/-- `arp_request`. -/
def arpRequest (env : Env) (arp : Arp) : RelayM Int := do
  let lp ← getLp
  if isSubnet arp.targetIp lp.packetCtx.subnetNet lp.packetCtx.subnetMask then
    if arp.targetIp = arp.senderIp then pure 0
    else if arp.senderIp = noneIp then pure 0
    else if lp.ingressZerotier then
      if arp.targetIp ≠ lp.zerotierIp then pure 0
      else lanPlaySendZerotierArpReply env arp.senderMac arp.targetIp arp.senderIp
    else do
      let known ← (if arp.targetIp = lp.packetCtx.ip then pure true
        else arpHasIp env .packetCtx arp.targetIp)
      let _ ← (if known ∨ env.options.zerotierIf.isSome then pure 0
        else lanPlaySendZerotierArp env arp.senderIp arp.targetIp)
      sendArp env arpOpcodeReply lp.packetCtx.mac arp.targetIp arp.senderMac arp.senderIp
  else pure 0

/-- The switch of `process_arp` over the opcode; `arp_reply` does nothing. -/
def dispatchArp (env : Env) (arp : Arp) : RelayM Int :=
  if arp.opcode = arpOpcodeRequest then arpRequest env arp
  else if arp.opcode = arpOpcodeReply then pure 0
  else pure (-1)

/-- `process_arp`. -/
def processArp (env : Env) (frame : Bytes) : RelayM Int := do
  let arp ← parseArp frame
  if arp.hardwareType ≠ arpHardtypeEther ∨ arp.protocolType ≠ etherTypeIpv4 ∨
      arp.hardwareSize ≠ 6 ∨ arp.protocolSize ≠ 4 then pure (-1)
  else do
    let _ ← arpSet env .packetCtx arp.senderMac arp.senderIp
    dispatchArp env arp

/-! ## IPv4 -/

/-- The header `send_ipv4_ex` builds, checksum included. -/
def ipv4Header (totalLen : Nat) (id : UInt16) (protocol : UInt8) (src dst : Ip4) : Bytes :=
  let buffer : Bytes := [0x45, 0x00] ++ Bytes.bytes16 totalLen ++ Bytes.bytes16 id.toNat ++
    Bytes.bytes16 0 ++ [128, protocol] ++ Bytes.bytes16 0 ++ src.toList ++ dst.toList
  buffer.put 10 (Bytes.bytes16 (calcChecksum buffer))

/-- `send_ipv4_ex`. -/
def sendIpv4Ex (env : Env) (src dst : Ip4) (protocol : UInt8) (payload : List Payload) :
    RelayM Int := do
  let lp ← getLp
  let header := ipv4Header ((20 + payloadTotalLen payload) % 65536) lp.packetCtx.identification
    protocol src dst
  modifyPacketCtx fun c => { c with identification := c.identification + 1 }
  let found ← arpGetMacByIp env .packetCtx dst
  match found with
  | none => pure 0
  | some dstMac => sendEther env dstMac etherTypeIpv4 (Payload.whole header :: payload)

/-- `send_ipv4`. -/
def sendIpv4 (env : Env) (dst : Ip4) (protocol : UInt8) (payload : List Payload) :
    RelayM Int := do
  let lp ← getLp
  sendIpv4Ex env lp.packetCtx.ip dst protocol payload

/-- `struct ipv4`: the fields that are read back. -/
structure Ipv4 where
  headerLen : Nat
  totalLen : Nat
  protocol : UInt8
  src : Ip4
  dst : Ip4

/-- `parse_ipv4` of `ipv4.c`. -/
def parseIpv4Header (frame : Bytes) : RelayM Ipv4 := do
  let verLen ← readByte frame 14
  let _ ← readByte frame (14 + 1)
  let totalLen ← readNet16 frame (14 + 2)
  let _ ← readNet16 frame (14 + 4)
  let _ ← readNet16 frame (14 + 6)
  let _ ← readByte frame (14 + 8)
  let protocol ← readByte frame (14 + 9)
  let _ ← readNet16 frame (14 + 9)
  let src ← readIp4 frame (14 + 12)
  let dst ← readIp4 frame (14 + 16)
  pure { headerLen := (verLen &&& 0x0f).toNat * 4, totalLen, protocol, src, dst }

theorem reads_parseIpv4Header (frame : Bytes) : Reads (parseIpv4Header frame) := by
  refine reads_bind (reads_readByte _ _) fun _ => reads_bind (reads_readByte _ _) fun _ => ?_
  refine reads_bind (reads_readNet16 _ _) fun _ => reads_bind (reads_readNet16 _ _) fun _ => ?_
  refine reads_bind (reads_readNet16 _ _) fun _ => reads_bind (reads_readByte _ _) fun _ => ?_
  refine reads_bind (reads_readByte _ _) fun _ => reads_bind (reads_readNet16 _ _) fun _ => ?_
  refine reads_bind (reads_readIp4 _ _) fun _ => reads_bind (reads_readIp4 _ _) fun _ => ?_
  exact reads_pure _

/-- `process_icmp`. -/
def processIcmp (env : Env) (frame : Bytes) (ipv4 : Ipv4) : RelayM Int :=
  if ipv4.totalLen < ipv4.headerLen then throw .copyLength
  else do
    let icmpLen := ipv4.totalLen - ipv4.headerLen
    let data ← copyRange bufferSize frame (14 + ipv4.headerLen) icmpLen
    -- the rest of the array is uninitialised and never read
    let payload := data ++ List.replicate (bufferSize - icmpLen) 0
    let payload ← writeRange payload 0 [0]
    let payload ← writeRange payload 2 (Bytes.bytes16 0)
    let payload ← writeRange payload 2 (Bytes.bytes16 (calcChecksum (payload.take icmpLen)))
    let _ ← sendIpv4 env ipv4.src ipv4ProtocolIcmp [⟨payload, 0, icmpLen⟩]
    pure 0

/-! ## lwIP and the UDP proxy -/

/-- `gateway::processUdp`. -/
def processUdp (frame : Bytes) : RelayM Int := do
  let dataLen := frame.length - 14
  let verLen ← (if dataLen > 0 then readByte frame 14 else pure 0)
  if verLen >>> 4 = 4 then
    if dataLen < 20 then pure (-1)
    else do
      let protocol ← readByte frame (14 + 9)
      if protocol ≠ ipv4ProtocolUdp then pure (-1)
      else do
        let headerLen := (verLen &&& 0x0f).toNat * 4
        let udpBase := 14 + headerLen
        let src ← readIp4 frame (14 + 12)
        let dst ← readIp4 frame (14 + 16)
        let srcport ← readNet16 frame udpBase
        let dstport ← readNet16 frame (udpBase + 2)
        -- a 16-bit length: too short a packet wraps
        let len := (((dataLen : Int) - headerLen - 8) % 65536).toNat
        let payload ← readRange frame (udpBase + 8) len
        modify fun w => { w with proxied := w.proxied ++ [⟨src, srcport, dst, dstport, payload⟩] }
        pure 0
  else pure (-1)

/-- `uvlOutput` for each packet lwIP emits. -/
def gatewayOutput (env : Env) : List LwipPacket → RelayM Unit
  | [] => pure ()
  | packet :: rest => do
    let _ ← lanPlayGatewaySendPacket env packet.bytes
    gatewayOutput env rest

/-- `gateway_on_packet`. -/
def gatewayOnPacket (env : Env) (frame : Bytes) : RelayM Unit := do
  let handled ← processUdp frame
  if handled = 0 then pure ()
  else do
    let input ← readRange frame 14 (frame.length - 14)
    let output ← ask fun n => env.lwipInput n input
    gatewayOutput env output

/-! ## Dispatch -/

/-- A unicast packet of the subnet that came from ZeroTier, in `process_ipv4`. -/
def forwardFromZerotier (env : Env) (dst : Ip4) (packet : Payload) : RelayM Int := do
  let known ← arpHasIp env .packetCtx dst
  if known then do
    let found ← arpGetMacByIp env .packetCtx dst
    -- the result is ignored: on a miss `dst_mac` keeps what the stack held
    let dstMac ← (match found with
      | some mac => pure mac
      | none => ask env.stackMac)
    sendEther env dstMac etherTypeIpv4 [packet]
  else lanClientSendIpv4 env dst packet

/-- The switch of `process_ipv4` over the destination. -/
def dispatchIpv4 (env : Env) (frame : Bytes) (ipv4 : Ipv4) (etherDst : Mac) : RelayM Int := do
  let lp ← getLp
  let packet : Payload := ⟨frame, 14, ipv4.totalLen⟩
  if ipv4.dst = lp.packetCtx.ip then
    if ipv4.protocol = ipv4ProtocolIcmp then processIcmp env frame ipv4 else pure 0
  else if isNintendoLanBroadcast ipv4.dst then
    if lp.ingressZerotier then sendEther env broadcastMac etherTypeIpv4 [packet]
    else lanPlaySendZerotierIpv4Broadcast env packet
  else if isSubnet ipv4.dst lp.packetCtx.subnetNet lp.packetCtx.subnetMask then
    if isBroadcast ipv4.dst lp.packetCtx.subnetNet lp.packetCtx.subnetMask then
      if lp.ingressZerotier then sendEther env broadcastMac etherTypeIpv4 [packet]
      else lanClientSendIpv4 env ipv4.dst packet
    else if !lp.ingressZerotier then lanClientSendIpv4 env ipv4.dst packet
    else forwardFromZerotier env ipv4.dst packet
  else if lp.packetCtx.mac = etherDst then do
    gatewayOnPacket env frame
    pure 0
  else pure 0

/-- `process_ipv4`. -/
def processIpv4 (env : Env) (frame : Bytes) : RelayM Int := do
  let ipv4 ← parseIpv4Header frame
  let etherSrc ← readMac frame 6
  let etherDst ← readMac frame 0
  let _ ← arpSet env .packetCtx etherSrc ipv4.src
  dispatchIpv4 env frame ipv4 etherDst

/-- `process_ether`. -/
def processEther (env : Env) (frame : Bytes) : RelayM Int := do
  let _ ← readMac frame 0
  let src ← readMac frame 6
  let type ← readNet16 frame 12
  let lp ← getLp
  if src = lp.packetCtx.mac then pure 0
  else if type = etherTypeArp then processArp env frame
  else if type = etherTypeIpv4 then processIpv4 env frame
  else pure 0

/-- `print_packet`: it reads the whole frame. -/
def printPacket (frame : Bytes) : RelayM Unit := do
  let _ ← readRange frame 0 frame.length
  pure ()

/-- `get_packet`. -/
def getPacket (env : Env) (frame : Bytes) : RelayM Unit :=
  if frame.length ≥ 65536 then printPacket frame
  else do
    modifyPacketCtx fun c =>
      { c with
        downloadPacket := c.downloadPacket + 1
        downloadByte := c.downloadByte + UInt64.ofNat frame.length }
    let ret ← processEther env frame
    if ret ≠ 0 then printPacket frame else pure ()

end Grid0Relay
