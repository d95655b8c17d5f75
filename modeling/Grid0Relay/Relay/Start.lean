import Grid0Relay.Lib.Strtol
import Grid0Relay.Relay.Handlers

/-!
# Starting the relay and running it

`lan_play_init` with the text parsers it uses, and whole runs: the callbacks the
event loop can deliver after a successful start, in any order. Opening the
capture handles, lwIP and the timer enter as their results.
-/

namespace Grid0Relay

open Lib Lib.Exec

/-! ## Parsing the network options -/

/-- One octet of a dotted quad as `inet_pton` accepts it. -/
def parseOctet (digits : List Char) : Option UInt8 :=
  if digits ≠ [] ∧ digits.all Char.isDigit ∧ digits.length ≤ 3 ∧
      (digits.head? ≠ some '0' ∨ digits.length = 1) then
    let value := digits.foldl (fun acc c => acc * 10 + (c.toNat - '0'.toNat)) 0
    if value ≤ 255 then some (UInt8.ofNat value) else none
  else none

/-- `parse_ipv4` of `lan-play.c`, that is `inet_pton`. -/
def parseIpv4 (text : List Char) : Option Ip4 :=
  match text.splitOn '.' with
  | [a, b, c, d] =>
    match parseOctet a, parseOctet b, parseOctet c, parseOctet d with
    | some a, some b, some c, some d => some (ip4 a b c d)
    | _, _, _, _ => none
  | _ => none

/-- `mask[i]` for a prefix length. -/
def prefixByte (len : Nat) (i : Nat) : UInt8 :=
  if 8 * i + 8 ≤ len then 0xff
  else if len ≤ 8 * i then 0
  else UInt8.ofNat (0xff <<< (8 * i + 8 - len))

def prefixMask (len : Nat) : Ip4 :=
  #v[prefixByte len 0, prefixByte len 1, prefixByte len 2, prefixByte len 3]

/-- `parse_subnet`: the network and its mask. -/
def parseSubnet (text : List Char) : Option (Ip4 × Ip4) :=
  if text.length ≥ 16 then none
  else
    match text.dropWhile (· ≠ '/') with
    | [] => none
    | _ :: rest =>
      match Strtol.strtol 10 rest, parseIpv4 (text.takeWhile (· ≠ '/')) with
      | (len, []), some net =>
        if len < 0 ∨ len > 32 then none
        else some (maskIp net (prefixMask len.toNat), prefixMask len.toNat)
      | _, _ => none

/-! ## `lan_play_init` -/

/-- What `lan_play_init` is given: the network options, what the adapters report,
and the results of the calls that acquire something. -/
structure Setup where
  subnet : Option String
  gatewayIp : Option String
  /-- `--relay-server-addr` is unset or parses. -/
  relayServerOk : Bool
  /-- The interfaces `uv_pcap_init` opens; it fails without any. -/
  wifiOpened : Nat
  zerotierOpened : Nat
  wifiMac : Option Mac
  wifiIpv4 : Option (Ip4 × Ip4)
  zerotierMac : Option Mac
  zerotierIpv4 : Option (Ip4 × Ip4)
  /-- `--socks5-server-addr` is unset or parses. -/
  socks5ServerOk : Bool
  gatewayInit : Int
  capturesOk : Bool
  discoverSwitch : Bool
  timerInit : Int
  timerStart : Int

/-- `--subnet`, or 10.147.17.0/24. -/
def Setup.network (setup : Setup) : Option (Ip4 × Ip4) :=
  match setup.subnet with
  | some text => parseSubnet text.toList
  | none => some (ip4 10 147 17 0, ip4 255 255 255 0)

/-- `--gateway`, or 10.147.17.1. -/
def Setup.gateway (setup : Setup) : Option Ip4 :=
  match setup.gatewayIp with
  | some text => parseIpv4 text.toList
  | none => some (ip4 10 147 17 1)

/-- `packet_init`. `AnyMac` is all ones. -/
def packetInit (ip subnetNet subnetMask : Ip4) (arpTtl : Nat) : PacketCtx where
  ip := ip
  subnetNet := subnetNet
  subnetMask := subnetMask
  mac := broadcastMac
  identification := 0
  arpList := ArpTable.init
  arpTtl := arpTtl
  uploadByte := 0
  downloadByte := 0
  uploadPacket := 0
  downloadPacket := 0

/-- `dhcp_server_init`. -/
def dhcpServerInit : DhcpServerState := ⟨LeaseTable.init, 0, 0, 0, 0, 0⟩

/-- Reserve the game ports one after the other, stopping at the first failure. -/
def reservePorts (env : Env) : List Nat → RelayM Int
  | [] => pure 0
  | port :: rest => do
    let ret ← nativeUdpGuardReserve env port
    if ret ≠ 0 then do
      modifyLp fun lp => { lp with udpGuard := none }
      pure (-1)
    else reservePorts env rest

/-- What `lan_play_init` takes from the Wi-Fi adapter's IPv4 address, when it has one. -/
def initWifiSubnet (setup : Setup) : RelayM Unit :=
  match setup.wifiIpv4 with
  | none => pure ()
  | some (ip, mask) =>
    modifyLp fun lp =>
      { lp with
        wifiIp := ip
        wifiNetmask := mask
        wifiSubnet := maskIp ip mask
        wifiBroadcast := fillIp (maskIp ip mask) mask
        wifiSubnetKnown := true }

/-- The ZeroTier adapter in `lan_play_init`. A rejected address leaves the broadcast
address of the struct half written; nothing reads it before the next start. -/
def initZerotier (setup : Setup) (wifiMac : Mac) (subnetNet subnetMask : Ip4) : RelayM Int :=
  match setup.zerotierMac with
  | none => pure (-1)
  | some zerotierMac => do
    modifyLp fun lp => { lp with zerotierMac }
    match setup.zerotierIpv4 with
    | none => pure (-1)
    | some (ip, mask) => do
      modifyLp fun lp =>
        { lp with
          zerotierIp := ip
          zerotierNetmask := mask
          zerotierBroadcastIp := fillIp ip mask }
      if maskIp ip subnetMask ≠ subnetNet then pure (-1)
      else if wifiMac = noneMac ∨ zerotierMac = noneMac then pure (-1)
      else pure 0

/-- The adapter half of `lan_play_init`: both adapters are read and checked
against `--subnet`. -/
def initAdapters (setup : Setup) (subnetNet subnetMask : Ip4) : RelayM Int :=
  match setup.wifiMac with
  | none => pure (-1)
  | some wifiMac => do
    modifyLp fun lp => { lp with wifiMac }
    initWifiSubnet setup
    initZerotier setup wifiMac subnetNet subnetMask

/-- The services half of `lan_play_init`, after `packet_init`. -/
def initServices (env : Env) (setup : Setup) : RelayM Int :=
  if !setup.socks5ServerOk ∨ setup.gatewayInit ≠ 0 then pure (-1)
  else do
    modifyLp fun lp => { lp with udpGuard := none }
    let allocated ← ask env.calloc
    if !allocated then pure (-1)
    else do
      modifyLp fun lp => { lp with udpGuard := some ⟨[], 0⟩ }
      let ret ← reservePorts env [35000, 49152, 49153, 49154, 49155]
      if ret ≠ 0 then pure (-1)
      else if !setup.capturesOk then pure (-1)
      else if setup.discoverSwitch then do
        modifyLp fun lp =>
          { lp with
            switchDiscoveryHost := 2
            switchDiscoveryPauseTicks := 0
            switchDiscoveryWifiPhase := lp.wifiSubnetKnown }
        if setup.timerInit ≠ 0 ∨ setup.timerStart ≠ 0 then pure (-1) else pure 0
      else pure 0

/-- `lan_play_init`. -/
def lanPlayInit (env : Env) (setup : Setup) : RelayM Int := do
  modifyLp fun lp =>
    { lp with
      zerotierNeighbors := ⟨ArpTable.init, 30⟩
      dhcpState := dhcpServerInit }
  if !setup.relayServerOk then pure (-1)
  else
    match setup.network, setup.gateway with
    | some (subnetNet, subnetMask), some gateway =>
      if maskIp gateway subnetMask ≠ subnetNet then pure (-1)
      else if setup.wifiOpened = 0 ∨ setup.zerotierOpened = 0 then pure (-1)
      else do
        let ret ← initAdapters setup subnetNet subnetMask
        if ret ≠ 0 then pure ret
        else do
          modifyLp fun lp => { lp with packetCtx := packetInit gateway subnetNet subnetMask 30 }
          initServices env setup
    | _, _ => pure (-1)

/-! ## Runs -/

/-- A callback of the event loop. -/
inductive Event
  /-- A frame captured on the Wi-Fi adapter. -/
  | wifi (frame : Bytes)
  /-- A frame captured on the ZeroTier adapter. -/
  | zerotier (frame : Bytes)
  /-- A tick of the discovery timer. -/
  | discovery
  /-- Packets lwIP emits on its own: timers and proxied TCP data. -/
  | lwip (output : List LwipPacket)
  /-- A datagram from the UDP proxy, as the segment `send_udp_ex` hands to `send_ipv4_ex`. -/
  | proxied (src dst : Ip4) (segment : Bytes)

/-- What the relay does in a callback. -/
def handle (env : Env) : Event → RelayM Unit
  | .wifi frame => do
    let lp ← getLp
    lanPlayPcapHandler env lp.wifiMac frame
  | .zerotier frame => do
    let lp ← getLp
    lanPlayZerotierPcapHandler env lp.zerotierMac frame
  | .discovery => switchDiscoveryTimerCb env
  | .lwip output => gatewayOutput env output
  | .proxied src dst segment => do
    let _ ← sendIpv4Ex env src dst ipv4ProtocolUdp [Payload.whole segment]
    pure ()

/-- `lan_play_close`: what it does to the struct. -/
def lanPlayClose (lp : LanPlay) : LanPlay := { lp with udpGuard := none }

/-- `real_lan_play` before the first start: a static object, all zero. -/
def LanPlay.zeroed : LanPlay where
  packetCtx := { packetInit noneIp noneIp noneIp 0 with mac := noneMac }
  ingressZerotier := false
  wifiArpRx := 0
  wifiIpv4Rx := 0
  zerotierArpRx := 0
  zerotierIpv4Rx := 0
  wifiTx := 0
  wifiProbeTx := 0
  zerotierTx := 0
  switchDiscoveryHost := 0
  switchDiscoveryPauseTicks := 0
  switchDiscoveryWifiPhase := false
  wifiMac := noneMac
  wifiIp := noneIp
  wifiNetmask := noneIp
  wifiSubnet := noneIp
  wifiBroadcast := noneIp
  wifiSubnetKnown := false
  zerotierMac := noneMac
  zerotierIp := noneIp
  zerotierNetmask := noneIp
  zerotierBroadcastIp := noneIp
  switchMac := noneMac
  switchIp := noneIp
  switchSeen := false
  switchMacConfirmed := false
  switchNintendoOui := false
  switchDhcp := false
  switchMacConflicts := 0
  warnedBroadcastMismatch := false
  warnedDirectSwitchDelivery := false
  dhcpState := dhcpServerInit
  zerotierNeighbors := ⟨ArpTable.init, 0⟩
  udpGuard := none
  wifiDeliveryProbeSent := false
  wifiDeliveryProbeReplied := false
  wifiDeliveryProbePayload := Vector.replicate 16 0
  wifiDeliveryProbeIp := noneIp
  wifiDeliveryProbeMac := noneMac

/-- The process before the first start. -/
def World.boot : World := ⟨.zeroed, [], [], 0, 0, 0, 0⟩

/-- The worlds of a process; the flag says whether a session is running. Sessions
may follow one another, and the struct keeps what `lan_play_init` does not set.
Each step may meet an environment of its own. -/
inductive Process : Bool → World → Prop
  | boot : Process false World.boot
  | start {w w' : World} {ret : Int} (env : Env) (setup : Setup) (stopped : Process false w)
      (result : lanPlayInit env setup w = .ok ret w') : Process (ret == 0) w'
  | event {w : World} (env : Env) (event : Event) (running : Process true w) :
      Process true (after (handle env event w))
  | close {w : World} (running : Process true w) :
      Process false { w with lp := lanPlayClose w.lp }

/-- A world some session reaches. -/
def Reachable (w : World) : Prop := Process true w

/-! ## The event loop -/

/-- An interface of a `uv_pcap_inner`: its device, and its `mac`. -/
structure Capture where
  device : String
  mac : Mac
deriving DecidableEq

/-- The captures with the handler of one adapter: those of `inner`, which `lan_play_close`
stops, and those of an `inner` that a later `uv_pcap_init` has replaced, which poll on. -/
structure Captures where
  inner : List Capture
  replaced : List Capture

def Captures.polling (c : Captures) : List Capture := c.inner ++ c.replaced

/-- `uv_pcap_init` with these interfaces. -/
def Captures.init (c : Captures) (opened : List Capture) : Captures := ⟨opened, c.polling⟩

def Captures.close (c : Captures) : Captures := ⟨[], c.replaced⟩

/-- The interface of a capture that has one. -/
def Capture.only : List Capture → Option Capture
  | [c] => some c
  | _ => none

/-- The interfaces a start opens, as far as it gets. -/
structure Opened (setup : Setup) where
  wifi : List Capture
  zerotier : List Capture
  wifiOpened : wifi.length = setup.wifiOpened
  zerotierOpened : zerotier.length = setup.zerotierOpened
  wifiMac : (Capture.only wifi).map Capture.mac = setup.wifiMac
  zerotierMac : (Capture.only zerotier).map Capture.mac = setup.zerotierMac

/-- The relay, and what calls it. -/
structure Loop where
  world : World
  wifi : Captures
  zerotier : Captures
  /-- The UDP sockets of a proxy that `gateway_close` has left, by their console. -/
  sockets : List Ip4

def Loop.boot : Loop := ⟨World.boot, ⟨[], []⟩, ⟨[], []⟩, []⟩

/-- `lan_play_init` gets as far as its captures. -/
def Setup.opensCaptures (setup : Setup) : Bool :=
  setup.relayServerOk && match setup.network, setup.gateway with
    | some (subnetNet, subnetMask), some gateway => maskIp gateway subnetMask == subnetNet
    | _, _ => false

def Loop.start (env : Env) {setup : Setup} (opened : Opened setup) (l : Loop) : Loop :=
  { l with
    world := after (lanPlayInit env setup l.world)
    wifi := if setup.opensCaptures then l.wifi.init opened.wifi else l.wifi
    zerotier := if setup.opensCaptures && setup.wifiOpened != 0 then l.zerotier.init opened.zerotier
      else l.zerotier }

/-- `lan_play_close`, where `gateway_close` leaves a proxy with these sockets. -/
def Loop.stop (sockets : List Ip4) (l : Loop) : Loop :=
  ⟨{ l.world with lp := lanPlayClose l.world.lp }, l.wifi.close, l.zerotier.close,
    sockets ++ l.sockets⟩

inductive Arrival
  /-- A frame that a capture reads. -/
  | wifi (capture : Nat) (frame : Bytes)
  | zerotier (capture : Nat) (frame : Bytes)
  /-- A datagram for a socket of an earlier session. -/
  | proxied (socket : Nat) (src : Ip4) (segment : Bytes)
  /-- Another callback of the session. -/
  | event (event : Event)

/-- What is there calls the relay. -/
def deliver {α : Type} (source : Option α) (handler : α → RelayM Unit) : RelayM Unit :=
  match source with
  | some a => handler a
  | none => pure ()

/-- A frame is handled with the `mac` of the capture that has read it. -/
def Loop.receive (env : Env) (l : Loop) : Arrival → RelayM Unit
  | .wifi i frame => deliver l.wifi.polling[i]? fun c => lanPlayPcapHandler env c.mac frame
  | .zerotier i frame =>
    deliver l.zerotier.polling[i]? fun c => lanPlayZerotierPcapHandler env c.mac frame
  | .proxied i src segment => deliver l.sockets[i]? fun dst => handle env (.proxied src dst segment)
  | .event event => handle env event

/-- The world all that arrives leaves. A callback that faults ends with the state it had
reached. -/
def Loop.run (env : Env) (l : Loop) (arrivals : List Arrival) (w : World) : World :=
  arrivals.foldl (fun w a => after (l.receive env a w)) w

end Grid0Relay
