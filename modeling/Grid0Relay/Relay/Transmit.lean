import Grid0Relay.Lib.Slots
import Grid0Relay.Relay.Checksum

/-!
# Sending frames

The two ways out of the relay. Wi-Fi frames go through `lan_play_send_packet`,
either built in place (`lan_play_send_wifi_ipv4`) or gathered from payload parts
in the shared send buffer (`send_payloads` of `packet.c`). ZeroTier frames are
built by the `lan_play_send_zerotier_*` functions. The ARP caches of `arp.c` sit
here because a cache miss itself sends a request.
-/

namespace Grid0Relay

open Lib Lib.Exec Lib.Slots

/-! ## Diagnostics

Only the reads of `diagnostic_log_frame` are kept; its text is not modelled. -/

/-- The IPv4 half of `diagnostic_log_frame`. -/
def diagnosticLogIpv4 (packet : Bytes) (len : Nat) : RelayM Unit := do
  let verLen ← readByte packet 14
  let headerLen := (verLen &&& 0x0f).toNat * 4
  let totalLen ← readNet16 packet (14 + 2)
  if verLen >>> 4 ≠ 4 ∨ headerLen < 20 ∨ totalLen < headerLen ∨
      totalLen > len - 14 then pure ()
  else do
    let flags ← readNet16 packet (14 + 6)
    let protocol ← readByte packet (14 + 9)
    if protocol = ipv4ProtocolUdp ∧ flags &&& 0x3fff = 0 ∧ totalLen ≥ headerLen + 8 then do
      let udpLen ← readNet16 packet (14 + headerLen + 4)
      if udpLen < 8 ∨ udpLen > totalLen - headerLen then pure ()
      else do
        let _ ← readRange packet (14 + headerLen + 8) (udpLen - 8)
        let _ ← readIp4 packet (14 + 12)
        let _ ← readNet16 packet (14 + headerLen)
        let _ ← readIp4 packet (14 + 16)
        let _ ← readNet16 packet (14 + headerLen + 2)
        let _ ← readMac packet 0
        pure ()
    else if protocol = ipv4ProtocolIcmp ∧ flags &&& 0x3fff = 0 ∧
        totalLen ≥ headerLen + 8 then do
      let type ← readByte packet (14 + headerLen)
      let _ ← readByte packet (14 + headerLen + 1)
      let _ ← readIp4 packet (14 + 12)
      let _ ← readIp4 packet (14 + 16)
      let quoted := 14 + headerLen + 8
      let available := totalLen - headerLen - 8
      if (type = 3 ∨ type = 11) ∧ available ≥ 20 then do
        let quotedVerLen ← readByte packet quoted
        let qhl := (quotedVerLen &&& 15).toNat * 4
        if quotedVerLen >>> 4 = 4 ∧ qhl ≥ 20 ∧ available ≥ qhl + 4 then do
          let quotedProtocol ← readByte packet (quoted + 9)
          if quotedProtocol = 17 then do
            let _ ← readIp4 packet (quoted + 12)
            let _ ← readNet16 packet (quoted + qhl)
            let _ ← readIp4 packet (quoted + 16)
            let _ ← readNet16 packet (quoted + qhl + 2)
            pure ()
          else pure ()
        else pure ()
      else pure ()
    else do
      let _ ← readIp4 packet (14 + 12)
      let _ ← readIp4 packet (14 + 16)
      pure ()

/-- `diagnostic_log_frame` behind the call of `capture_frame`. -/
def diagnosticLogFrameLen (env : Env) (packet : Bytes) (len : Nat) : RelayM Unit :=
  if !env.options.diagnostics ∨ len < 14 then pure ()
  else do
    let type ← readNet16 packet 12
    if type = etherTypeArp ∧ 14 + 28 ≤ len then do
      let _ ← readNet16 packet (14 + 6)
      let _ ← readMac packet 6
      let _ ← readIp4 packet (14 + 14)
      let _ ← readIp4 packet (14 + 24)
      pure ()
    else if type = etherTypeIpv4 ∧ 14 + 20 ≤ len then diagnosticLogIpv4 packet len
    else pure ()

/-- `diagnostic_log_frame` of a session without capture files. -/
def diagnosticLogFrame (env : Env) (packet : Bytes) : RelayM Unit :=
  diagnosticLogFrameLen env packet packet.length

/-- `capture_frame`, up to the bytes `pcap_dump` copies. -/
def captureFrame (capturing : Bool) (packet : Bytes) (len : Nat) : RelayM Unit :=
  if len = 0 ∨ !capturing then pure ()
  else do
    let _ ← readRange packet 0 len
    pure ()

/-- `diagnostic_log_frame`, whether or not its direction is captured. -/
def diagnosticLogFrameCapturing (capturing : Bool) (env : Env) (packet : Bytes) (len : Nat) :
    RelayM Unit := do
  captureFrame capturing packet len
  diagnosticLogFrameLen env packet len

/-! ## Wi-Fi frames -/

/-- `lan_play_send_packet`. -/
def lanPlaySendPacket (env : Env) (data : Bytes) : RelayM Int := do
  modifyLp fun lp => { lp with wifiTx := lp.wifiTx + 1 }
  diagnosticLogFrame env data
  uvPcapSendpacket env .wifi data

/-- The 14 bytes in front of every frame. -/
def etherHeader (dst src : Mac) (type : Nat) : Bytes :=
  dst.toList ++ src.toList ++ Bytes.bytes16 type

/-- `struct payload`: `len` bytes from `off` on in some buffer. -/
structure Payload where
  src : Bytes
  off : Nat
  len : Nat

/-- A payload that is a whole buffer. -/
def Payload.whole (b : Bytes) : Payload := ⟨b, 0, b.length⟩

/-- `payload_total_len`. -/
def payloadTotalLen (payload : List Payload) : Nat := (payload.map Payload.len).sum % 65536

/-- `lan_play_send_wifi_ipv4`. -/
def lanPlaySendWifiIpv4 (env : Env) (dstMac : Mac) (ip : Payload) : RelayM Int :=
  if ip.len < 20 ∨ ip.len > etherMtu then pure (-1)
  else do
    let lp ← getLp
    let body ← copyRange etherMtu ip.src ip.off ip.len
    lanPlaySendPacket env (etherHeader dstMac lp.wifiMac etherTypeIpv4 ++ body)

/-- `lan_play_dhcp_send`. -/
def lanPlayDhcpSend (env : Env) (dstMac : Mac) (ip : Payload) : RelayM Int :=
  lanPlaySendWifiIpv4 env dstMac ip

/-- The copying loop of `send_payloads`. -/
def gatherPayloads : Bytes → List Payload → RelayM Bytes
  | buf, [] => pure buf
  | buf, part :: rest =>
    if buf.length + part.len ≥ bufferSize then throw .assertion
    else do
      let bytes ← copyRange (bufferSize - buf.length) part.src part.off part.len
      gatherPayloads (buf ++ bytes) rest

/-- `send_payloads`. -/
def sendPayloads (env : Env) (payload : List Payload) : RelayM Int := do
  let buf ← gatherPayloads [] payload
  modifyPacketCtx fun c =>
    { c with
      uploadPacket := c.uploadPacket + 1
      uploadByte := c.uploadByte + UInt64.ofNat buf.length }
  lanPlaySendPacket env buf

/-- `send_ether_ex`. -/
def sendEtherEx (env : Env) (dst src : Mac) (type : Nat) (payload : List Payload) :
    RelayM Int :=
  sendPayloads env (Payload.whole (etherHeader dst src type) :: payload)

/-- `send_ether`. -/
def sendEther (env : Env) (dst : Mac) (type : Nat) (payload : List Payload) : RelayM Int := do
  let lp ← getLp
  sendEtherEx env dst lp.packetCtx.mac type payload

/-! ## ARP -/

/-- The 28 bytes of an ARP packet. -/
def arpBody (opcode : Nat) (senderMac : Mac) (senderIp : Ip4) (targetMac : Mac)
    (targetIp : Ip4) : Bytes :=
  Bytes.bytes16 arpHardtypeEther ++ Bytes.bytes16 etherTypeIpv4 ++ [6, 4] ++
    Bytes.bytes16 opcode ++ senderMac.toList ++ senderIp.toList ++ targetMac.toList ++
    targetIp.toList

/-- `send_arp_ex`. -/
def sendArpEx (env : Env) (dstMac : Mac) (opcode : Nat) (senderMac : Mac) (senderIp : Ip4)
    (targetMac : Mac) (targetIp : Ip4) : RelayM Int :=
  sendEther env dstMac etherTypeArp
    [Payload.whole (arpBody opcode senderMac senderIp targetMac targetIp)]

/-- `send_arp`. -/
def sendArp (env : Env) (opcode : Nat) (senderMac : Mac) (senderIp : Ip4) (targetMac : Mac)
    (targetIp : Ip4) : RelayM Int :=
  sendArpEx env targetMac opcode senderMac senderIp targetMac targetIp

/-- The two `packet_ctx` of a `lan_play`. -/
inductive Ctx
  | packetCtx
  | zerotierNeighbors
deriving DecidableEq, Repr

/-- `send_arp_request`. Asked of the neighbour context it copies the sender MAC
from the null `self->mac`. -/
def sendArpRequest (env : Env) (self : Ctx) (targetIp : Ip4) : RelayM Int :=
  match self with
  | .packetCtx => do
    let lp ← getLp
    sendArpEx env broadcastMac arpOpcodeRequest lp.packetCtx.mac lp.packetCtx.ip noneMac
      targetIp
  | .zerotierNeighbors => throw .nullPointer

namespace ArpTable

/-- `arp_list_init`. -/
def init : ArpTable where
  items := List.replicate arpCacheLen ⟨noneIp, noneMac, 0⟩
  size := List.length_replicate

/-- The unexpired entry for an address: the scan of both lookups. -/
def lookup (t : ArpTable) (ip : Ip4) (now : Nat) : Option ArpItem :=
  t.items.find? fun item => item.ip == ip && decide (item.expireAt > now)

/-- Whether `arp_set` may overwrite a slot. -/
def reusable (ip : Ip4) (now : Nat) (item : ArpItem) : Bool :=
  item.ip == noneIp || item.ip == ip || decide (item.expireAt < now)

/-- The scan of `arp_set`. -/
def set (t : ArpTable) (mac : Mac) (ip : Ip4) (now ttl : Nat) : Option ArpTable :=
  match h : replaceFirst (reusable ip now) ⟨ip, mac, now + ttl⟩ t.items with
  | some items => some ⟨items, (length_replaceFirst h).trans t.size⟩
  | none => none

end ArpTable

def LanPlay.arpList (lp : LanPlay) : Ctx → ArpTable
  | .packetCtx => lp.packetCtx.arpList
  | .zerotierNeighbors => lp.zerotierNeighbors.arpList

def LanPlay.arpTtl (lp : LanPlay) : Ctx → Nat
  | .packetCtx => lp.packetCtx.arpTtl
  | .zerotierNeighbors => lp.zerotierNeighbors.arpTtl

def LanPlay.setArpList (lp : LanPlay) : Ctx → ArpTable → LanPlay
  | .packetCtx, t => { lp with packetCtx := { lp.packetCtx with arpList := t } }
  | .zerotierNeighbors, t =>
    { lp with zerotierNeighbors := { lp.zerotierNeighbors with arpList := t } }

/-- `arp_has_ip`. -/
def arpHasIp (env : Env) (self : Ctx) (ip : Ip4) : RelayM Bool := do
  let now ← timeNull env
  let lp ← getLp
  pure ((lp.arpList self).lookup ip now).isSome

/-- `arp_get_mac_by_ip`: `some` is a true result and the copied MAC. -/
def arpGetMacByIp (env : Env) (self : Ctx) (ip : Ip4) : RelayM (Option Mac) := do
  let now ← timeNull env
  let lp ← getLp
  match (lp.arpList self).lookup ip now with
  | some item => pure (some item.mac)
  | none => do
    let _ ← sendArpRequest env self ip
    pure none

/-- `arp_set`. -/
def arpSet (env : Env) (self : Ctx) (mac : Mac) (ip : Ip4) : RelayM Bool := do
  let now ← timeNull env
  let lp ← getLp
  match (lp.arpList self).set mac ip now (lp.arpTtl self) with
  | some table => do
    modifyLp fun lp => lp.setArpList self table
    pure true
  | none => pure false

/-- The loop of `arp_for_each` over the slots, for a callback that leaves them alone: the
unexpired ones in order, until the callback returns something other than zero. -/
def arpForEachItem {m : Type → Type} [Monad m] (now : Nat) (cb : ArpItem → m Int) :
    List ArpItem → m Unit
  | [] => pure ()
  | item :: rest =>
    if item.expireAt > now then do
      let ret ← cb item
      if ret ≠ 0 then pure () else arpForEachItem now cb rest
    else arpForEachItem now cb rest

/-- `arp_for_each`. -/
def arpForEach (env : Env) (self : Ctx) (cb : ArpItem → RelayM Int) : RelayM Unit := do
  let now ← timeNull env
  let lp ← getLp
  arpForEachItem now cb (lp.arpList self).items

/-! ## ZeroTier frames -/

/-- The common end of the ZeroTier senders. -/
def zerotierTransmit (env : Env) (frame : Bytes) : RelayM Int := do
  modifyLp fun lp => { lp with zerotierTx := lp.zerotierTx + 1 }
  diagnosticLogFrame env frame
  uvPcapSendpacket env .zerotier frame

/-- `lan_play_send_zerotier_arp`. -/
def lanPlaySendZerotierArp (env : Env) (senderIp targetIp : Ip4) : RelayM Int := do
  let lp ← getLp
  zerotierTransmit env (etherHeader broadcastMac lp.zerotierMac etherTypeArp ++
    arpBody arpOpcodeRequest lp.zerotierMac senderIp noneMac targetIp)

/-- `lan_play_send_zerotier_arp_reply`. The parameter names are the source's:
`targetIp` is the address that was asked for. -/
def lanPlaySendZerotierArpReply (env : Env) (targetMac : Mac) (targetIp senderIp : Ip4) :
    RelayM Int := do
  let lp ← getLp
  zerotierTransmit env (etherHeader targetMac lp.zerotierMac etherTypeArp ++
    arpBody arpOpcodeReply lp.zerotierMac targetIp targetMac senderIp)

/-- `lan_play_send_zerotier_ipv4_broadcast`. -/
def lanPlaySendZerotierIpv4Broadcast (env : Env) (packet : Payload) : RelayM Int :=
  if packet.len < 20 ∨ packet.len > etherMtu then pure (-1)
  else do
    let lp ← getLp
    let body ← copyRange etherMtu packet.src packet.off packet.len
    zerotierTransmit env (etherHeader broadcastMac lp.zerotierMac etherTypeIpv4 ++ body)

/-- `lan_play_send_zerotier_ipv4`. -/
def lanPlaySendZerotierIpv4 (env : Env) (dstIp : Ip4) (packet : Payload) : RelayM Int :=
  if packet.len < 20 ∨ packet.len > etherMtu then pure (-1)
  else do
    let known ← arpHasIp env .zerotierNeighbors dstIp
    -- the second lookup reads the clock again, and on a miss sends from the
    -- neighbour context, which has no adapter address
    let dst ← (if known then arpGetMacByIp env .zerotierNeighbors dstIp else pure none)
    let lp ← getLp
    match dst with
    | none => do
      let _ ← lanPlaySendZerotierArp env lp.zerotierIp dstIp
      lanPlaySendZerotierIpv4Broadcast env packet
    | some mac => do
      let body ← copyRange etherMtu packet.src packet.off packet.len
      zerotierTransmit env (etherHeader mac lp.zerotierMac etherTypeIpv4 ++ body)

/-- `lan_client_send_ipv4`. -/
def lanClientSendIpv4 (env : Env) (dstIp : Ip4) (packet : Payload) : RelayM Int :=
  lanPlaySendZerotierIpv4 env dstIp packet

/-- `lan_play_gateway_send_packet`. -/
def lanPlayGatewaySendPacket (env : Env) (data : Bytes) : RelayM Int := do
  let dst ← readIp4 data 16
  let found ← arpGetMacByIp env .packetCtx dst
  match found with
  | none => pure 0
  | some dstMac => sendEther env dstMac etherTypeIpv4 [⟨data, 0, data.length % 65536⟩]

end Grid0Relay
