import Grid0Relay.Relay.NintendoOui
import Grid0Relay.Relay.Transmit

/-!
# The DHCP server

`dhcp-server.c`: parsing a client packet, the table of eight leases, the choice
of an address and the replies. Every function that looks at the time reads the
clock itself, as in the source.
-/

namespace Grid0Relay

open Lib Lib.Exec Lib.Slots

def dhcpMsgDiscover : UInt8 := 1
def dhcpMsgOffer : UInt8 := 2
def dhcpMsgRequest : UInt8 := 3
def dhcpMsgAck : UInt8 := 5
def dhcpMsgNak : UInt8 := 6
def dhcpMsgRelease : UInt8 := 7

@[simp] def dhcpLeaseTime : Nat := 3600
@[simp] def dhcpOfferTime : Nat := 120

/-! ## Parsing -/

/-- `struct dhcp_request`. -/
structure DhcpRequest where
  xid : Nat
  flags : Nat
  chaddr : Mac
  msgType : UInt8
  requestedIp : Ip4
  hasRequestedIp : Bool
  serverId : Ip4
  hasServerId : Bool
  ciaddr : Ip4
deriving DecidableEq

/-- One option of the walk in `dhcp_parse`. -/
def dhcpOption (frame : Bytes) (data : Nat) (code olen : UInt8) (req : DhcpRequest) :
    RelayM DhcpRequest :=
  if code = 53 ∧ olen = 1 then do
    let msgType ← readByte frame data
    pure { req with msgType }
  else if code = 50 ∧ olen = 4 then do
    let requestedIp ← readIp4 frame data
    pure { req with requestedIp, hasRequestedIp := true }
  else if code = 54 ∧ olen = 4 then do
    let serverId ← readIp4 frame data
    pure { req with serverId, hasServerId := true }
  else pure req

/-- The option walk of `dhcp_parse`; `dhcp` is the offset of the DHCP message in
the frame. Every round moves `off` up, so `stop` rounds are enough. -/
def dhcpOptions (frame : Bytes) (dhcp stop : Nat) : Nat → Nat → DhcpRequest → RelayM DhcpRequest
  | 0, _, req => pure req
  | fuel + 1, off, req =>
    if off + 1 < stop then do
      let code ← readByte frame (dhcp + off)
      if code = 255 then pure req
      else if code = 0 then dhcpOptions frame dhcp stop fuel (off + 1) req
      else if off + 2 > stop then pure req
      else do
        let olen ← readByte frame (dhcp + off + 1)
        if off + 2 + olen.toNat > stop then pure req
        else do
          let req ← dhcpOption frame (dhcp + off + 2) code olen req
          dhcpOptions frame dhcp stop fuel (off + 2 + olen.toNat) req
    else pure req

/-- The part of `dhcp_parse` after the UDP header: `hlen` and `ulen` are the
lengths the headers declare. -/
def dhcpParseMessage (frame : Bytes) (hlen ulen : Nat) : RelayM (Option DhcpRequest) := do
  let dhcp := 14 + hlen + 8
  let op ← readByte frame dhcp
  let htype ← readByte frame (dhcp + 1)
  let hsize ← readByte frame (dhcp + 2)
  if op ≠ 1 ∨ htype ≠ 1 ∨ hsize ≠ 6 then pure none
  else do
    let magicHigh ← readNet16 frame (dhcp + 236)
    let magicLow ← readNet16 frame (dhcp + 238)
    if magicHigh ≠ 0x6382 ∨ magicLow ≠ 0x5363 then pure none
    else do
      let xidHigh ← readNet16 frame (dhcp + 4)
      let xidLow ← readNet16 frame (dhcp + 6)
      let flags ← readNet16 frame (dhcp + 10)
      let ciaddr ← readIp4 frame (dhcp + 12)
      let chaddr ← readMac frame (dhcp + 28)
      -- the end is measured from the DHCP message but counts the IPv4 header
      let stop := hlen + ulen - 8
      let req ← dhcpOptions frame dhcp stop stop 240
        { xid := xidHigh * 65536 + xidLow, flags, chaddr, msgType := 0, requestedIp := noneIp
          hasRequestedIp := false, serverId := noneIp, hasServerId := false, ciaddr }
      pure (if req.msgType ≠ 0 then some req else none)

/-- `dhcp_parse` with its two arguments: the memory at `frame` and the length `len`. -/
def dhcpParseLen (frame : Bytes) (len : Nat) : RelayM (Option DhcpRequest) :=
  if len < 14 + 20 + 8 + 240 then pure none
  else do
    let type ← readNet16 frame 12
    if type ≠ etherTypeIpv4 then pure none
    else do
      let verLen ← readByte frame 14
      let hlen := (verLen &&& 0x0f).toNat * 4
      let total ← readNet16 frame (14 + 2)
      let protocol ← readByte frame (14 + 9)
      if verLen >>> 4 ≠ 4 ∨ hlen < 20 ∨ total < hlen + 8 ∨ total > len - 14 ∨
          protocol ≠ ipv4ProtocolUdp then pure none
      else do
        let dstport ← readNet16 frame (14 + hlen + 2)
        let ulen ← readNet16 frame (14 + hlen + 4)
        if dstport ≠ 67 ∨ ulen < 8 + 240 ∨ hlen + ulen > total then pure none
        else dhcpParseMessage frame hlen ulen

/-- `dhcp_parse` on a captured frame. -/
def dhcpParse (frame : Bytes) : RelayM (Option DhcpRequest) := dhcpParseLen frame frame.length

theorem reads_dhcpOptions (frame : Bytes) (dhcp stop fuel off : Nat) (req : DhcpRequest) :
    Reads (dhcpOptions frame dhcp stop fuel off req) := by
  have hoption : ∀ data code olen req, Reads (dhcpOption frame data code olen req) := by
    intro data code olen req
    refine reads_ite (fun _ => reads_bind (reads_readByte _ _) fun _ => reads_pure _) fun _ => ?_
    refine reads_ite (fun _ => reads_bind (reads_readIp4 _ _) fun _ => reads_pure _) fun _ => ?_
    refine reads_ite (fun _ => reads_bind (reads_readIp4 _ _) fun _ => reads_pure _) fun _ => ?_
    exact reads_pure _
  induction fuel generalizing off req with
  | zero => exact reads_pure _
  | succ fuel ih =>
    refine reads_when fun _ => ?_
    refine reads_bind (reads_readByte _ _) fun code => ?_
    refine reads_guard fun _ => reads_ite (fun _ => ih _ _) fun _ => ?_
    refine reads_guard fun _ => ?_
    refine reads_bind (reads_readByte _ _) fun olen => ?_
    refine reads_guard fun _ => ?_
    exact reads_bind (hoption _ _ _ _) fun req => ih _ _

theorem reads_dhcpParseMessage (frame : Bytes) (hlen ulen : Nat) :
    Reads (dhcpParseMessage frame hlen ulen) := by
  refine reads_bind (reads_readByte _ _) fun op => reads_bind (reads_readByte _ _) fun ht => ?_
  refine reads_bind (reads_readByte _ _) fun hs => reads_guard fun _ => ?_
  refine reads_bind (reads_readNet16 _ _) fun hi => reads_bind (reads_readNet16 _ _) fun lo => ?_
  refine reads_guard fun _ => ?_
  refine reads_bind (reads_readNet16 _ _) fun xh => reads_bind (reads_readNet16 _ _) fun xl => ?_
  refine reads_bind (reads_readNet16 _ _) fun fl => reads_bind (reads_readIp4 _ _) fun ci => ?_
  refine reads_bind (reads_readMac _ _) fun ch => ?_
  exact reads_bind (reads_dhcpOptions _ _ _ _ _ _) fun req => reads_pure _

theorem reads_dhcpParseLen (frame : Bytes) (len : Nat) : Reads (dhcpParseLen frame len) := by
  refine reads_guard fun _ => reads_bind (reads_readNet16 _ _) fun ty => ?_
  refine reads_guard fun _ => reads_bind (reads_readByte _ _) fun vl => ?_
  refine reads_bind (reads_readNet16 _ _) fun total => reads_bind (reads_readByte _ _) fun p => ?_
  refine reads_guard fun _ => ?_
  refine reads_bind (reads_readNet16 _ _) fun dp => reads_bind (reads_readNet16 _ _) fun ul => ?_
  exact reads_guard fun _ => reads_dhcpParseMessage _ _ _

theorem reads_dhcpParse (frame : Bytes) : Reads (dhcpParse frame) :=
  reads_dhcpParseLen frame frame.length

/-! ## Leases -/

/-- A slot after `memset`. -/
def DhcpLease.zero : DhcpLease := ⟨noneMac, noneIp, 0, false, false⟩

/-- Whether a used slot belongs to a client. -/
def DhcpLease.ownedBy (mac : Mac) (lease : DhcpLease) : Bool := lease.used && lease.mac == mac

/-- Whether a used slot still binds its address. -/
def DhcpLease.live (now : Nat) (lease : DhcpLease) : Bool :=
  lease.used && decide (lease.expires > now)

/-- The leases of `dhcp_server_init`. -/
def LeaseTable.init : LeaseTable where
  slots := List.replicate dhcpLeaseCount DhcpLease.zero
  size := List.length_replicate

/-- `dhcp_sweep_expired`. -/
def dhcpSweepExpired (t : LeaseTable) (now : Nat) : LeaseTable where
  slots := t.slots.map fun lease =>
    if lease.used ∧ lease.expires ≤ now then DhcpLease.zero else lease
  size := by simpa using t.size

/-- `dhcp_find_mac`. -/
def dhcpFindMac (t : LeaseTable) (mac : Mac) : Option DhcpLease := t.slots.find? (·.ownedBy mac)

/-- Overwrite the first slot satisfying `p`. -/
def LeaseTable.replace (t : LeaseTable) (p : DhcpLease → Bool) (lease : DhcpLease) :
    Option LeaseTable :=
  match h : replaceFirst p lease t.slots with
  | some slots => some ⟨slots, (length_replaceFirst h).trans t.size⟩
  | none => none

/-- The slot search of `dhcp_claim`: the client's own slot, else the first free one. -/
def LeaseTable.claim (t : LeaseTable) (lease : DhcpLease) : Option LeaseTable :=
  (t.replace (·.ownedBy lease.mac) lease).or (t.replace (fun slot => !slot.used) lease)

def modifyDhcp (f : DhcpServerState → DhcpServerState) : RelayM Unit :=
  modifyLp fun lp => { lp with dhcpState := f lp.dhcpState }

/-- `dhcp_claim`: whether a slot was found. -/
def dhcpClaim (env : Env) (mac : Mac) (ip : Ip4) (offered : Bool) : RelayM Bool := do
  let now ← timeNull env
  let lp ← getLp
  let expires := now + if offered then dhcpOfferTime else dhcpLeaseTime
  match lp.dhcpState.leases.claim ⟨mac, ip, expires, offered, true⟩ with
  | none => pure false
  | some leases => do
    modifyDhcp fun st => { st with leases }
    pure true

/-! ## Choosing an address -/

/-- `ipv4_to_u32`. -/
def ipv4ToU32 (ip : Ip4) : UInt32 :=
  (octet ip 0).toUInt32 <<< 24 ||| (octet ip 1).toUInt32 <<< 16 |||
    (octet ip 2).toUInt32 <<< 8 ||| (octet ip 3).toUInt32

/-- `u32_to_ipv4`. -/
def u32ToIpv4 (v : UInt32) : Ip4 :=
  #v[(v >>> 24).toUInt8, (v >>> 16).toUInt8, (v >>> 8).toUInt8, v.toUInt8]

/-- The `.254`-downward loop of `dhcp_pick_ip`. The distance to the broadcast
address grows every round and stops the loop at 25. -/
def dhcpPickPool (env : Env) (now : Nat) (net bcast gw self : UInt32) :
    Nat → UInt32 → RelayM (Option Ip4)
  | 0, _ => pure none
  | fuel + 1, cand =>
    if cand > net ∧ bcast - cand ≤ 24 then do
      let ip := u32ToIpv4 cand
      let lp ← getLp
      if cand = gw ∨ cand = self ∨ (lp.switchSeen ∧ ip = lp.switchIp) then
        dhcpPickPool env now net bcast gw self fuel (cand - 1)
      else do
        let known ← arpHasIp env .packetCtx ip
        if known ∨ lp.dhcpState.leases.slots.any fun l => l.live now && l.ip == ip then
          dhcpPickPool env now net bcast gw self fuel (cand - 1)
        else pure (some ip)
    else pure none

/-- `dhcp_pick_ip`. -/
def dhcpPickIp (env : Env) (mac : Mac) : RelayM (Option Ip4) := do
  let now ← timeNull env
  let lp ← getLp
  match (dhcpFindMac lp.dhcpState.leases mac).filter fun own => decide (own.expires > now) with
  | some own => pure (some own.ip)
  | none => do
    let net := ipv4ToU32 lp.zerotierIp &&& ipv4ToU32 lp.zerotierNetmask
    let bcast := ipv4ToU32 lp.zerotierBroadcastIp
    let gw := ipv4ToU32 lp.packetCtx.ip
    let self := ipv4ToU32 lp.zerotierIp
    let ip := u32ToIpv4 self
    let taken := lp.dhcpState.leases.slots.any fun l =>
      l.live now && l.ip == ip && l.mac != mac
    let known ← (if taken then pure true else arpHasIp env .packetCtx ip)
    if !known ∧ (!lp.switchSeen ∨ ip = lp.switchIp) then pure (some ip)
    else dhcpPickPool env now net bcast gw self 25 (bcast - 1)

/-! ## Replies -/

/-- `dhcp_opt`. -/
def dhcpOpt (code : UInt8) (data : Bytes) : Bytes := code :: UInt8.ofNat data.length :: data

/-- The options of a reply. -/
def dhcpReplyOptions (lp : LanPlay) (msgType : UInt8) : Bytes :=
  dhcpOpt 53 [msgType] ++
    (if msgType ≠ dhcpMsgNak then
      dhcpOpt 54 lp.packetCtx.ip.toList ++
      dhcpOpt 51 (Bytes.bytes16 (dhcpLeaseTime / 65536) ++ Bytes.bytes16 dhcpLeaseTime) ++
      dhcpOpt 1 lp.zerotierNetmask.toList ++
      dhcpOpt 3 lp.packetCtx.ip.toList ++
      dhcpOpt 6 lp.packetCtx.ip.toList ++
      dhcpOpt 28 lp.zerotierBroadcastIp.toList
    else []) ++
    [255]

/-- The 300-byte DHCP message of a reply. -/
def dhcpReplyMessage (lp : LanPlay) (dstMac : Mac) (req : DhcpRequest) (msgType : UInt8)
    (yiaddr : Ip4) : Bytes :=
  let fixed : Bytes := [2, 1, 6, 0] ++ Bytes.bytes16 (req.xid / 65536) ++
    Bytes.bytes16 req.xid ++ [0, 0] ++ Bytes.bytes16 req.flags ++ [0, 0, 0, 0] ++
    yiaddr.toList ++ lp.packetCtx.ip.toList ++ [0, 0, 0, 0] ++ dstMac.toList ++
    List.replicate 202 0 ++ Bytes.bytes16 0x6382 ++ Bytes.bytes16 0x5363
  let message := fixed ++ dhcpReplyOptions lp msgType
  message ++ List.replicate (300 - message.length) 0

/-- The 328-byte IPv4 packet of a reply. -/
def dhcpReplyPacket (lp : LanPlay) (id : UInt16) (dstMac : Mac) (req : DhcpRequest)
    (msgType : UInt8) (yiaddr : Ip4) : Bytes :=
  let header : Bytes := [0x45, 0] ++ Bytes.bytes16 328 ++ Bytes.bytes16 id.toNat ++
    [0, 0, 64, ipv4ProtocolUdp, 0, 0] ++ lp.packetCtx.ip.toList ++ [255, 255, 255, 255]
  let udp : Bytes := Bytes.bytes16 67 ++ Bytes.bytes16 68 ++ Bytes.bytes16 308 ++ [0, 0]
  let ip := header ++ udp ++ dhcpReplyMessage lp dstMac req msgType yiaddr
  let ip := ip.put 10 (Bytes.bytes16 (ipv4HeaderChecksum (ip.take 20)))
  ip.put (20 + 6) (Bytes.bytes16 (udpChecksum ip 20 328))

/-- `dhcp_send_reply`. -/
def dhcpSendReply (env : Env) (dstMac : Mac) (req : DhcpRequest) (msgType : UInt8)
    (yiaddr : Ip4) : RelayM Int := do
  modify fun w => { w with dhcpIpId := w.dhcpIpId + 1 }
  let w ← get
  lanPlayDhcpSend env broadcastMac
    (Payload.whole (dhcpReplyPacket w.lp w.dhcpIpId dstMac req msgType yiaddr))

/-! ## Handling a client packet -/

/-- `dhcp_in_our_subnet`. -/
def dhcpInOurSubnet (lp : LanPlay) (ip : Ip4) : Bool :=
  ipv4ToU32 ip &&& ipv4ToU32 lp.zerotierNetmask ==
    ipv4ToU32 lp.zerotierIp &&& ipv4ToU32 lp.zerotierNetmask

/-- The DISCOVER branch of `dhcp_server_consume`. -/
def dhcpDiscover (env : Env) (mac : Mac) (req : DhcpRequest) : RelayM Unit := do
  let picked ← dhcpPickIp env mac
  match picked with
  | none => pure ()
  | some ip => do
    let claimed ← dhcpClaim env mac ip true
    if claimed then do
      let ret ← dhcpSendReply env mac req dhcpMsgOffer ip
      if ret = 0 then modifyDhcp fun st => { st with offersSent := st.offersSent + 1 }
      else pure ()
    else pure ()

/-- The REQUEST branch of `dhcp_server_consume`. -/
def dhcpRequested (env : Env) (mac : Mac) (req : DhcpRequest) : RelayM Unit := do
  let found ← (fun lp => dhcpFindMac lp.dhcpState.leases mac) <$> getLp
  let now ← timeNull env
  let lp ← getLp
  let want := if req.hasRequestedIp then req.requestedIp else req.ciaddr
  let hasWant := req.hasRequestedIp || req.ciaddr != noneIp
  match found.filter fun lease => decide (lease.expires > now) && hasWant && want == lease.ip with
  | some lease => do
    let _ ← dhcpClaim env mac lease.ip false
    let ret ← dhcpSendReply env mac req dhcpMsgAck lease.ip
    if ret = 0 then modifyDhcp fun st => { st with acksSent := st.acksSent + 1 }
    else pure ()
  | none =>
    if hasWant && dhcpInOurSubnet lp want then do
      let ret ← dhcpSendReply env mac req dhcpMsgNak noneIp
      if ret = 0 then modifyDhcp fun st => { st with naksSent := st.naksSent + 1 }
      else pure ()
    else if hasWant then
      modifyDhcp fun st => { st with lostRaces := st.lostRaces + 1 }
    else pure ()

/-- The RELEASE branch of `dhcp_server_consume`. -/
def dhcpReleased (mac : Mac) : RelayM Unit :=
  modifyDhcp fun st =>
    { st with leases := (st.leases.replace (·.ownedBy mac) DhcpLease.zero).getD st.leases }

/-- The switch of `dhcp_server_consume` over the kind of message. -/
def dhcpHandle (env : Env) (mac : Mac) (req : DhcpRequest) : RelayM Unit :=
  if !isNintendoMac mac then
    modifyDhcp fun st => { st with ignoredNonNintendo := st.ignoredNonNintendo + 1 }
  else if req.msgType = dhcpMsgDiscover then dhcpDiscover env mac req
  else if req.msgType = dhcpMsgRequest then dhcpRequested env mac req
  else if req.msgType = dhcpMsgRelease then dhcpReleased mac
  else pure ()

/-- `dhcp_server_consume` on a parsed message. -/
def dhcpRespond (env : Env) (frame : Bytes) (req : DhcpRequest) : RelayM Unit := do
  let now ← timeNull env
  modifyDhcp fun st => { st with leases := dhcpSweepExpired st.leases now }
  let mac ← readMac frame 6
  dhcpHandle env mac req

/-- `dhcp_server_consume`. -/
def dhcpServerConsume (env : Env) (frame : Bytes) : RelayM Bool := do
  let lp ← getLp
  if !env.options.dhcpServer ∨ !lp.wifiSubnetKnown then pure false
  else do
    let parsed ← dhcpParse frame
    match parsed with
    | none => pure false
    | some req => do
      dhcpRespond env frame req
      pure true

end Grid0Relay
