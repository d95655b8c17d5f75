import Grid0Relay.Lib.Bytes
import Grid0Relay.Lib.Exec

/-!
# Data model of the relay

`LanPlay` is `struct lan_play`, reduced to the fields the packet paths read or
write; `World` adds what lies outside the struct: the frames handed to the
capture library, the datagrams handed to the proxy, and how often the
environment has been asked (the clock, the results of system calls). `Env` answers those
questions by number, so one `Env` fixes a whole run and a theorem about every
`Env` covers every clock and every failure pattern.

Programs are `RelayM`: a step either returns or stops at the first undefined or
aborting operation (`Fault`), keeping the world it had reached.
-/

namespace Grid0Relay

open Lib

/-- `uint8_t mac[6]`. -/
abbrev Mac := Vector UInt8 6

/-- `uint8_t ip[4]`. -/
abbrev Ip4 := Vector UInt8 4

/-- A MAC from its bytes. -/
def mac6 (a b c d e f : UInt8) : Mac := #v[a, b, c, d, e, f]

/-- An address from its bytes. -/
def ip4 (a b c d : UInt8) : Ip4 := #v[a, b, c, d]

/-- A byte of a MAC or an address. -/
def octet {n : Nat} (v : Vector UInt8 n) (i : Nat) : UInt8 := Bytes.byte v.toList i

theorem octet_eq {n : Nat} (v : Vector UInt8 n) {i : Nat} (h : i < n) : octet v i = v[i] :=
  Bytes.byte_toList v h

/-! ## Constants of the headers -/

def etherTypeArp : Nat := 0x0806
def etherTypeIpv4 : Nat := 0x0800

def ipv4ProtocolIcmp : UInt8 := 1
def ipv4ProtocolUdp : UInt8 := 17

def arpHardtypeEther : Nat := 1
def arpOpcodeRequest : Nat := 1
def arpOpcodeReply : Nat := 2

/-- `ETHER_MTU`. -/
@[simp] def etherMtu : Nat := 1500

/-- `BUFFER_SIZE`: the send buffer and the ICMP scratch buffer. -/
@[simp] def bufferSize : Nat := 2048

@[simp] def arpCacheLen : Nat := 100
@[simp] def dhcpLeaseCount : Nat := 8
def maxUdpPorts : Nat := 64

def noneIp : Ip4 := #v[0, 0, 0, 0]
def noneMac : Mac := #v[0, 0, 0, 0, 0, 0]
def broadcastMac : Mac := #v[0xff, 0xff, 0xff, 0xff, 0xff, 0xff]

/-! ## Addresses and masks -/

/-- An operation on two addresses, byte by byte. -/
def bytewise (f : UInt8 → UInt8 → UInt8) (a b : Ip4) : Ip4 :=
  #v[f a[0] b[0], f a[1] b[1], f a[2] b[2], f a[3] b[3]]

/-- Byte-wise conjunction with a netmask. -/
def maskIp (ip mask : Ip4) : Ip4 := bytewise (· &&& ·) ip mask

/-- Byte-wise disjunction with the complement of a netmask. -/
def fillIp (ip mask : Ip4) : Ip4 := bytewise (fun a m => a ||| ~~~m) ip mask

/-- `IS_SUBNET`. The 32-bit comparison of the macro is the byte-wise one. -/
def isSubnet (ip net mask : Ip4) : Bool := maskIp ip mask == net

/-- `IS_BROADCAST`. -/
def isBroadcast (ip net mask : Ip4) : Bool := fillIp net mask == ip

/-- `is_nintendo_lan_broadcast`: the directed broadcast of 10.0.0.0/8. -/
def isNintendoLanBroadcast (ip : Ip4) : Bool :=
  ip[0] == 10 && ip[1] == 255 && ip[2] == 255 && ip[3] == 255

/-! ## Caches and tables -/

/-- `struct arp_item`. -/
structure ArpItem where
  ip : Ip4
  mac : Mac
  expireAt : Nat
deriving DecidableEq, Repr

/-- `arp_list[ARP_CACHE_LEN]`. -/
@[ext] structure ArpTable where
  items : List ArpItem
  size : items.length = arpCacheLen

/-- `struct packet_ctx` of the local side. `mac` points to the MAC of the adapter
a frame came from, and `buffer` is always the 2048-byte `SEND_BUFFER`. -/
structure PacketCtx where
  ip : Ip4
  subnetNet : Ip4
  subnetMask : Ip4
  mac : Mac
  identification : UInt16
  arpList : ArpTable
  arpTtl : Nat
  uploadByte : UInt64
  downloadByte : UInt64
  uploadPacket : UInt64
  downloadPacket : UInt64

/-- `zerotier_neighbors`, a second `packet_ctx` of which only the ARP cache is ever
set: its `mac`, `buffer` and `arg` stay null. -/
@[ext] structure NeighborCtx where
  arpList : ArpTable
  arpTtl : Nat

/-- `struct dhcp_lease`. -/
structure DhcpLease where
  mac : Mac
  ip : Ip4
  expires : Nat
  offered : Bool
  used : Bool
deriving DecidableEq, Repr

/-- `leases[DHCP_LEASE_COUNT]`. -/
@[ext] structure LeaseTable where
  slots : List DhcpLease
  size : slots.length = dhcpLeaseCount

/-- `struct dhcp_server_state`. -/
structure DhcpServerState where
  leases : LeaseTable
  offersSent : UInt64
  acksSent : UInt64
  naksSent : UInt64
  ignoredNonNintendo : UInt64
  lostRaces : UInt64

/-- `struct native_udp_guard`: the reserved ports, newest first. -/
structure NativeUdpGuard where
  ports : List Nat
  count : Nat

/-! ## The relay state -/

/-- `struct lan_play`. -/
structure LanPlay where
  packetCtx : PacketCtx
  ingressZerotier : Bool
  wifiArpRx : UInt64
  wifiIpv4Rx : UInt64
  zerotierArpRx : UInt64
  zerotierIpv4Rx : UInt64
  wifiTx : UInt64
  wifiProbeTx : UInt64
  zerotierTx : UInt64
  switchDiscoveryHost : UInt8
  switchDiscoveryPauseTicks : UInt16
  switchDiscoveryWifiPhase : Bool
  wifiMac : Mac
  wifiIp : Ip4
  wifiNetmask : Ip4
  wifiSubnet : Ip4
  wifiBroadcast : Ip4
  wifiSubnetKnown : Bool
  zerotierMac : Mac
  zerotierIp : Ip4
  zerotierNetmask : Ip4
  zerotierBroadcastIp : Ip4
  switchMac : Mac
  switchIp : Ip4
  switchSeen : Bool
  switchMacConfirmed : Bool
  switchNintendoOui : Bool
  switchDhcp : Bool
  switchMacConflicts : UInt64
  warnedBroadcastMismatch : Bool
  warnedDirectSwitchDelivery : Bool
  dhcpState : DhcpServerState
  zerotierNeighbors : NeighborCtx
  udpGuard : Option NativeUdpGuard
  wifiDeliveryProbeSent : Bool
  wifiDeliveryProbeReplied : Bool
  wifiDeliveryProbePayload : Vector UInt8 16
  wifiDeliveryProbeIp : Ip4
  wifiDeliveryProbeMac : Mac

/-- `is_zerotier_destination`. -/
def isZerotierDestination (lp : LanPlay) (ip : Ip4) : Bool :=
  ip == lp.zerotierBroadcastIp ||
    maskIp ip lp.zerotierNetmask == maskIp lp.zerotierIp lp.zerotierNetmask

/-- `ip_in_subnet`. -/
def ipInSubnet (ip net mask : Ip4) : Bool := maskIp ip mask == net

/-! ## The world around the struct -/

/-- The two captured adapters. -/
inductive Iface
  | wifi
  | zerotier
deriving DecidableEq, Repr

/-- One call of `uv_pcap_sendpacket`. -/
structure Injection where
  iface : Iface
  frame : Bytes
deriving DecidableEq, Repr

/-- One call of `IProxy::udpSend`. -/
structure UdpSend where
  src : Ip4
  srcport : Nat
  dst : Ip4
  dstport : Nat
  payload : Bytes
deriving DecidableEq, Repr

/-- What ends an execution early. -/
inductive Fault
  /-- A byte past the end of a buffer was read. -/
  | readBounds
  /-- A byte past the end of a buffer was written. -/
  | writeBounds
  /-- A negative length was passed to `memcpy`. -/
  | copyLength
  /-- `assert(0)` was reached. -/
  | assertion
  /-- A null pointer was read. -/
  | nullPointer
deriving DecidableEq, Repr

/-- The command-line options the packet paths consult. -/
structure Options where
  diagnostics : Bool
  dhcpServer : Bool
  zerotierIf : Option String

/-- A packet lwIP hands to `uvlOutput`: at least an IPv4 header, and cut into
fragments at the MTU of 1300 the interface is given. -/
structure LwipPacket where
  bytes : Bytes
  minLen : 20 ≤ bytes.length
  maxLen : bytes.length ≤ 1300

/-- The answers of everything outside the relay, by question number. -/
structure Env where
  options : Options
  /-- The readings of `time(NULL)`. -/
  clock : Nat → Nat
  /-- `uv_hrtime()`, as the eight bytes it has in memory. -/
  hrtime : Nat → Vector UInt8 8
  /-- The result of `uv_pcap_sendpacket`. -/
  sendpacket : Nat → Int
  /-- Whether `calloc` succeeds. -/
  calloc : Nat → Bool
  uvUdpInit : Nat → Int
  uvUdpBind : Nat → Int
  uvUdpRecvStart : Nat → Int
  /-- The packets lwIP emits while it handles one input. -/
  lwipInput : Nat → Bytes → List LwipPacket
  /-- What an uninitialised `dst_mac[6]` on the stack holds. -/
  stackMac : Nat → Mac

/-- The relay and everything it has done: `readings` counts the calls of
`time(NULL)` and `time` is what the last one returned, `asked` counts the other
questions to the environment, and `dhcpIpId` is the file-level counter of the
DHCP server. -/
structure World where
  lp : LanPlay
  sent : List Injection
  proxied : List UdpSend
  readings : Nat
  time : Nat
  asked : Nat
  dhcpIpId : UInt16

/-- The relay's programs. -/
abbrev RelayM := EStateM Fault World

/-! ## Reading a frame

The Ethernet header takes 14 bytes; the IPv4 and ARP offsets of the source are
written as `14 + n` throughout. -/

namespace Frame

def etherDst (f : Bytes) : Mac := f.vecAt 6 0
def etherSrc (f : Bytes) : Mac := f.vecAt 6 6
def etherType (f : Bytes) : Nat := f.net16 12

def ipVersion (f : Bytes) : UInt8 := f.byte 14 >>> 4
def ipHeaderLen (f : Bytes) : Nat := (f.byte 14 &&& 0x0f).toNat * 4
def ipTotalLen (f : Bytes) : Nat := f.net16 (14 + 2)
def ipFragment (f : Bytes) : Nat := f.net16 (14 + 6)
def ipProtocol (f : Bytes) : UInt8 := f.byte (14 + 9)
def ipSrc (f : Bytes) : Ip4 := f.vecAt 4 (14 + 12)
def ipDst (f : Bytes) : Ip4 := f.vecAt 4 (14 + 16)

def arpOpcode (f : Bytes) : Nat := f.net16 (14 + 6)
def arpSenderMac (f : Bytes) : Mac := f.vecAt 6 (14 + 8)
def arpSenderIp (f : Bytes) : Ip4 := f.vecAt 4 (14 + 14)
def arpTargetIp (f : Bytes) : Ip4 := f.vecAt 4 (14 + 24)

theorem ipHeaderLen_le (f : Bytes) : ipHeaderLen f ≤ 60 := by
  have hnib : (f.byte 14 &&& 0x0f).toNat ≤ 15 := by
    rw [UInt8.toNat_and]
    exact Nat.and_le_right
  rw [ipHeaderLen]
  omega

end Frame

end Grid0Relay
