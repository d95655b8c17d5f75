import Grid0Relay.Lib.Ledger
import Grid0Relay.Relay.Start

/-!
# What the relay holds

`lan_play_init` and `lan_play_close` once more, as programs that acquire and
release: capture handles with their loop handles, the firewall rule, the gateway,
the UDP guard and its sockets, the capture files, the discovery timer. Every call
that can fail is answered by `Startup`.

The account belongs to one session. A pointer the struct still has from an earlier
one is marked `earlier`, and touching it, or a handle nobody initialised, is stray.
-/

namespace Grid0Relay.Lifecycle

open Lib.Ledger

/-- `lan_play->pcap` and `lan_play->zerotier_pcap`. -/
inductive Side
  | wifi
  | zerotier
  deriving DecidableEq

inductive Resource
  /-- The `pcap_t` of a device. -/
  | pcap (side : Side) (device : Nat)
  /-- The `uv_poll_t`, on Windows the `uv_timer_t`, that reads a device. -/
  | loopHandle (side : Side) (device : Nat)
  /-- The rule of `winfw_set_hotspot_dhcp_block`. -/
  | hotspotDhcpBlock
  | gateway
  /-- The proxy of the gateway, with its running `gc` timer. -/
  | proxy
  /-- The `UvLwipBase` of the gateway, which holds itself. -/
  | lwip
  | udpGuard
  | udpSocket (port : Nat)
  | captureFormat
  | captureFile (i : Fin 5)
  | discoveryTimer
  | client
  | clientKeepaliveTimer
  | realBroadcastTimer
  deriving DecidableEq

/-- Which session set a pointer of the struct. -/
inductive Owner
  | earlier
  | session
  deriving DecidableEq

/-! ## What the calls answer -/

/-- A device `pcap_findalldevs` lists. -/
structure Device where
  /-- `capture_names_equal` with `netif`, a number standing for the device at that place. -/
  named : Bool
  /-- `pcap_create` succeeds. -/
  create : Bool
  /-- The calls from `pcap_set_timeout` to `set_immediate_mode` succeed. -/
  prepared : Bool
  mac : Mac
  ipv4 : Option (Ip4 × Ip4)
  /-- `pcap_setnonblock` succeeds. -/
  nonblock : Bool
  /-- `uv_poll_init`, on Windows `uv_timer_init`. -/
  loopInit : Int
  /-- `uv_poll_start`, on Windows `uv_timer_start`. -/
  loopStart : Int

/-- The arguments of one `uv_pcap_init` and the devices it sees. -/
structure Adapters where
  /-- `netif` is not `NULL`. -/
  netif : Bool
  findalldevs : Int
  devices : List Device

/-- The calls of one `native_udp_guard_reserve`. -/
structure Reservation where
  allocated : Bool
  udpInit : Int
  bind : Int
  recvStart : Int

/-- The calls `open_captures` makes for one file. -/
structure FileResult where
  /-- The path fits. -/
  path : Bool
  /-- `fopen`, on Windows `CreateFileW`. -/
  created : Bool
  /-- `pcap_dump_fopen`, on Windows `pcap_dump_hopen`. -/
  dumped : Bool

/-- The options of a start and everything it is answered. -/
structure Startup where
  windows : Bool
  diagnostics : Bool
  dhcpServer : Bool
  discoverSwitch : Bool
  fakeInternet : Bool
  subnet : Option String
  gatewayIp : Option String
  /-- `--relay-server-addr`, when given, and whether `parse_addr` accepts it. -/
  relayServer : Option Bool
  /-- `--socks5-server-addr`, likewise. -/
  socks5Server : Option Bool
  wifi : Adapters
  zerotier : Adapters
  guardAllocated : Bool
  reservation : Nat → Reservation
  capturePrefix : Bool
  openDead : Bool
  file : Fin 5 → FileResult
  /-- `pcap_dump_flush` succeeds, where `open_captures` gives up. -/
  flush : Fin 5 → Bool
  timerInit : Int
  timerStart : Int

/-- What the calls of `lan_play_close` answer. -/
structure Closing where
  /-- `pcap_dump_flush` succeeds. -/
  flush : Fin 5 → Bool
  recvStop : Int
  keepaliveStop : Int
  realBroadcastStop : Int
  /-- The TCP connections in `connSet`, and whether the proxy has a socket for them: a
  `Socks5ProxyTcp` has none before its handshake is over. -/
  connections : List Bool

/-! ## The handles of the struct -/

/-- An open interface of `uv_pcap_inner`: the device and its place in the list. -/
abbrev Interface := Device × Nat

structure Handles where
  /-- `pcap.inner`. -/
  pcap : Option (List Interface)
  /-- `zerotier_pcap.inner`. -/
  zerotierPcap : Option (List Interface)
  /-- The `dev` of every capture is `NULL`. -/
  capturesClosed : Bool
  gateway : Option Owner
  /-- lwIP has a listener on the interface of the gateway. -/
  listening : Bool
  /-- The ports of `udp_guard`. -/
  udpGuard : Option (List Nat)
  captureFormat : Option Owner
  captures : Fin 5 → Option Owner
  switchDiscoveryTimer : Option Owner
  client : Option Owner
  clientKeepaliveTimer : Option Owner
  realBroadcastTimer : Option Owner
  /-- The firewall rule exists; it outlives the process. -/
  firewallRule : Option Owner

/-- The handles a new session finds. -/
def Handles.inherited (h : Handles) : Handles :=
  let mark (o : Option Owner) : Option Owner := o.map fun _ => .earlier
  { h with
    gateway := mark h.gateway
    captureFormat := mark h.captureFormat
    captures := fun i => mark (h.captures i)
    switchDiscoveryTimer := mark h.switchDiscoveryTimer
    client := mark h.client
    clientKeepaliveTimer := mark h.clientKeepaliveTimer
    realBroadcastTimer := mark h.realBroadcastTimer
    firewallRule := mark h.firewallRule }

/-- `real_lan_play` before the first start. -/
def Handles.boot : Handles where
  pcap := none
  zerotierPcap := none
  capturesClosed := false
  gateway := none
  listening := false
  udpGuard := none
  captureFormat := none
  captures := fun _ => none
  switchDiscoveryTimer := none
  client := none
  clientKeepaliveTimer := none
  realBroadcastTimer := none
  firewallRule := none

abbrev LifeM := LedgerM Handles Resource

/-- Operate on the handle a field holds. -/
def operateOn : Option Owner → Resource → LifeM Unit
  | some .session, r => operate r
  | _, _ => stray

/-- Release the handle a field holds. -/
def releaseOf : Option Owner → Resource → LifeM Unit
  | some .session, r => release r
  | _, _ => stray

/-- Release what a pointer points to, unless it is `NULL`. -/
def releaseSet : Option Owner → Resource → LifeM Unit
  | none, _ => pure ()
  | some owner, r => releaseOf (some owner) r

/-! ## `uv_pcap_init` and `uv_pcap_close` -/

section Pcap

variable (windows : Bool) (side : Side)

/-- `uv_pcap_interf_init`. A poll handle is set up even if `pcap_setnonblock` fails. -/
def uvPcapInterfInit (device : Nat) (d : Device) : LifeM Int :=
  if windows ∧ !d.nonblock then pure (-1)
  else if d.loopInit ≠ 0 then pure d.loopInit
  else do
    acquire (.loopHandle side device)
    pure d.loopStart

/-- `uv_pcap_open_live`. -/
def uvPcapOpenLive (device : Nat) (d : Device) : LifeM Int :=
  if !d.create then pure (-1)
  else do
    acquire (.pcap side device)
    if !d.prepared ∨ d.mac = noneMac then do
      release (.pcap side device)
      pure (-1)
    else do
      let ret ← uvPcapInterfInit windows side device d
      if ret ≠ 0 then do
        release (.pcap side device)
        pure (-1)
      else pure 0

/-- The loop of `uv_pcap_init` over the devices it opens. -/
def openDevices : List Interface → LifeM (List Interface)
  | [] => pure []
  | (d, device) :: rest => do
    let ret ← uvPcapOpenLive windows side device d
    let others ← openDevices rest
    pure (if ret = 0 then (d, device) :: others else others)

/-- The devices `uv_pcap_init` opens: the first that matches `netif`, or all. -/
def Adapters.tried (a : Adapters) : List Interface :=
  if a.findalldevs ≠ 0 then []
  else if a.netif then (a.devices.zipIdx.find? (·.1.named)).toList
  else a.devices.zipIdx

/-- The field of a side. -/
def setInner (inner : List Interface) : LifeM Unit :=
  update fun h => match side with
    | .wifi => { h with pcap := some inner }
    | .zerotier => { h with zerotierPcap := some inner, capturesClosed := false }

/-- `uv_pcap_init`. -/
def uvPcapInit (a : Adapters) : LifeM Int := do
  let opened ← openDevices windows side a.tried
  setInner side opened
  pure (if opened = [] then -1 else 0)

/-- `uv_pcap_get_mac`. -/
def uvPcapGetMac (inner : Option (List Interface)) : Option Mac :=
  match inner with
  | some [(d, _)] => some d.mac
  | _ => none

/-- `uv_pcap_get_ipv4`. -/
def uvPcapGetIpv4 (inner : Option (List Interface)) : Option (Ip4 × Ip4) :=
  match inner with
  | some [(d, _)] => d.ipv4
  | _ => none

/-- `uv_pcap_interf_close`: only the Windows one closes anything. -/
def uvPcapInterfClose (device : Nat) : LifeM Unit :=
  if windows then do
    operate (.loopHandle side device)
    release (.loopHandle side device)
    release (.pcap side device)
  else operate (.loopHandle side device)

/-- `uv_pcap_close`. -/
def uvPcapClose : List Interface → LifeM Unit
  | [] => pure ()
  | (_, device) :: rest => do
    operate (.pcap side device)
    uvPcapInterfClose windows side device
    uvPcapClose rest

end Pcap

/-- `winfw_set_hotspot_dhcp_block`: nothing but on Windows. -/
def winfwSetHotspotDhcpBlock (windows enable : Bool) : LifeM Unit := do
  let h ← read
  if !windows then pure ()
  else do
    releaseSet h.firewallRule .hotspotDhcpBlock
    if enable then do
      acquire .hotspotDhcpBlock
      update fun h => { h with firewallRule := some .session }
    else update fun h => { h with firewallRule := none }

/-! ## The UDP guard -/

/-- `native_udp_guard_create`. -/
def nativeUdpGuardCreate (allocated : Bool) : LifeM Int := do
  update fun h => { h with udpGuard := none }
  if !allocated then pure uvEnomem
  else do
    acquire .udpGuard
    update fun h => { h with udpGuard := some [] }
    pure 0

/-- `native_udp_guard_reserve` from the allocation on. -/
def openSocket (port : Nat) (ports : List Nat) (r : Reservation) : LifeM Int :=
  if !r.allocated then pure uvEnomem
  else if r.udpInit ≠ 0 then pure r.udpInit
  else do
    acquire (.udpSocket port)
    let ret := if r.bind = 0 then r.recvStart else r.bind
    if ret ≠ 0 then do
      release (.udpSocket port)
      pure ret
    else do
      update fun h => { h with udpGuard := some (port :: ports) }
      pure 0

/-- `native_udp_guard_reserve`. -/
def nativeUdpGuardReserve (port : Nat) (r : Reservation) : LifeM Int := do
  let h ← read
  match h.udpGuard with
  | none => pure uvEinval
  | some ports =>
    if port = 0 then pure uvEinval
    else if port ∈ ports then pure 0
    else if ports.length ≥ maxUdpPorts then pure uvEnospc
    else openSocket port ports r

def closeSockets : List Nat → LifeM Unit
  | [] => pure ()
  | port :: rest => do
    operate (.udpSocket port)
    release (.udpSocket port)
    closeSockets rest

/-- `native_udp_guard_close`. -/
def nativeUdpGuardClose (guard : Option (List Nat)) : LifeM Unit :=
  match guard with
  | none => pure ()
  | some ports => do
    closeSockets ports
    release .udpGuard

/-- Close `udp_guard` and set it to `NULL`. -/
def dropGuard : LifeM Unit := do
  let h ← read
  nativeUdpGuardClose h.udpGuard
  update fun h => { h with udpGuard := none }

/-- The reservations of `lan_play_init`. -/
def reservePorts (reservation : Nat → Reservation) : List Nat → LifeM Int
  | [] => pure 0
  | port :: rest => do
    let ret ← nativeUdpGuardReserve port (reservation port)
    if ret ≠ 0 then do
      dropGuard
      pure (-1)
    else reservePorts reservation rest

/-! ## The capture files -/

/-- `captures[i] = o`. -/
def Handles.setCapture (h : Handles) (i : Fin 5) (o : Option Owner) : Handles :=
  { h with captures := Function.update h.captures i o }

def setCapture (i : Fin 5) (o : Option Owner) : LifeM Unit := update (·.setCapture i o)

/-- `flush_capture`. -/
def flushCapture (i : Fin 5) (flushed : Bool) : LifeM Unit := do
  let h ← read
  if h.captures i = none then pure ()
  else do
    operateOn (h.captures i) (.captureFile i)
    if !flushed then do
      releaseOf (h.captures i) (.captureFile i)
      setCapture i none
    else pure ()

/-- One turn of the loop of `close_captures`. -/
def closeCapture (i : Fin 5) (flushed : Bool) : LifeM Unit := do
  flushCapture i flushed
  let h ← read
  releaseSet (h.captures i) (.captureFile i)
  setCapture i none

def closeFiles (flush : Fin 5 → Bool) : List (Fin 5) → LifeM Unit
  | [] => pure ()
  | i :: rest => do
    closeCapture i (flush i)
    closeFiles flush rest

/-- `close_captures`. -/
def closeCaptures (flush : Fin 5 → Bool) : LifeM Unit := do
  closeFiles flush (List.finRange 5)
  let h ← read
  releaseSet h.captureFormat .captureFormat
  update fun h => { h with captureFormat := none }

/-- The loop of `open_captures`. -/
def openFiles (file : Fin 5 → FileResult) (flush : Fin 5 → Bool) : List (Fin 5) → LifeM Int
  | [] => pure 0
  | i :: rest =>
    if !(file i).path ∨ !(file i).created then do
      closeCaptures flush
      pure (-1)
    else do
      acquire (.captureFile i)
      if !(file i).dumped then do
        release (.captureFile i)
        setCapture i none
        closeCaptures flush
        pure (-1)
      else do
        setCapture i (some .session)
        openFiles file flush rest

/-- `open_captures`. -/
def openCaptures (s : Startup) : LifeM Int :=
  if !s.capturePrefix then pure 0
  else if !s.openDead then do
    update fun h => { h with captureFormat := none }
    pure (-1)
  else do
    acquire .captureFormat
    update fun h => { h with captureFormat := some .session }
    openFiles s.file s.flush (List.finRange 5)

/-! ## `lan_play_init` -/

/-- Everything up to the loop handle of the device succeeds. -/
def Device.ready (windows : Bool) (d : Device) : Bool :=
  d.create && d.prepared && d.mac ≠ noneMac && (!windows || d.nonblock) && d.loopInit == 0

def Device.opens (windows : Bool) (d : Device) : Bool := d.ready windows && d.loopStart == 0

/-- The loop handle of the device is set up and then does not start. -/
def Device.strands (windows : Bool) (d : Device) : Bool := d.ready windows && d.loopStart != 0

def Adapters.opened (windows : Bool) (a : Adapters) : List Interface :=
  a.tried.filter (·.1.opens windows)

def Adapters.stranded (windows : Bool) (a : Adapters) : List Interface :=
  a.tried.filter (·.1.strands windows)

def Reservation.ok (r : Reservation) : Bool :=
  r.allocated && r.udpInit == 0 && r.bind == 0 && r.recvStart == 0

def FileResult.ok (r : FileResult) : Bool := r.path && r.created && r.dumped

def Startup.capturesOk (s : Startup) : Bool :=
  !s.capturePrefix || (s.openDead && (List.finRange 5).all fun i => (s.file i).ok)

/-- The start as the relay's model sees it. -/
def Startup.setup (s : Startup) : Setup where
  subnet := s.subnet
  gatewayIp := s.gatewayIp
  relayServerOk := s.relayServer != some false
  wifiOpened := (s.wifi.opened s.windows).length
  zerotierOpened := (s.zerotier.opened s.windows).length
  wifiMac := uvPcapGetMac (some (s.wifi.opened s.windows))
  wifiIpv4 := uvPcapGetIpv4 (some (s.wifi.opened s.windows))
  zerotierMac := uvPcapGetMac (some (s.zerotier.opened s.windows))
  zerotierIpv4 := uvPcapGetIpv4 (some (s.zerotier.opened s.windows))
  socks5ServerOk := s.socks5Server != some false
  gatewayInit := 0
  capturesOk := s.capturesOk
  discoverSwitch := s.discoverSwitch
  timerInit := s.timerInit
  timerStart := s.timerStart

/-- `initAdapters` of the relay's model: both adapters are read and checked. -/
def checkAdapters (subnetNet subnetMask : Ip4) : LifeM Int := do
  let h ← read
  match uvPcapGetMac h.pcap, uvPcapGetMac h.zerotierPcap, uvPcapGetIpv4 h.zerotierPcap with
  | some wifiMac, some zerotierMac, some (ip, _) =>
    if maskIp ip subnetMask ≠ subnetNet ∨ wifiMac = noneMac ∨ zerotierMac = noneMac then
      pure (-1)
    else pure 0
  | _, _, _ => pure (-1)

/-- `gateway_init`. `tcp_bind_to_netif` takes no second listener for an interface, and what
is asserted of it (`RT_ASSERT`) ends the process: `false`. -/
def gatewayInit : LifeM Bool := do
  let h ← read
  if h.listening then pure false
  else do
    acquire .gateway
    acquire .proxy
    acquire .lwip
    update fun h => { h with gateway := some .session, listening := true }
    pure true

/-- The discovery timer at the end of `lan_play_init`. -/
def startDiscovery (s : Startup) : LifeM Int :=
  if !s.discoverSwitch then pure 0
  else if s.timerInit ≠ 0 then pure (-1)
  else do
    acquire .discoveryTimer
    update fun h => { h with switchDiscoveryTimer := some .session }
    pure (if s.timerStart ≠ 0 then -1 else 0)

def gamePorts : List Nat := [35000, 49152, 49153, 49154, 49155]

/-- `lan_play_init` from the UDP guard on. -/
def initGuard (s : Startup) : LifeM Int := do
  let ret ← nativeUdpGuardCreate s.guardAllocated
  if ret ≠ 0 then pure (-1)
  else do
    let ret ← reservePorts s.reservation gamePorts
    if ret ≠ 0 then pure (-1)
    else do
      let ret ← openCaptures s
      if ret ≠ 0 then pure (-1) else startDiscovery s

/-- `lan_play_init` after `packet_init`. -/
def initServices (s : Startup) : LifeM (Option Int) :=
  if s.socks5Server = some false then pure (some (-1))
  else do
    let alive ← gatewayInit
    if alive then do
      let ret ← initGuard s
      pure (some ret)
    else pure none

/-- `lan_play_init` from the ZeroTier capture on. -/
def initZerotier (s : Startup) (subnetNet subnetMask : Ip4) : LifeM (Option Int) := do
  let ret ← uvPcapInit s.windows .zerotier s.zerotier
  if ret ≠ 0 then pure (some ret)
  else do
    let ret ← checkAdapters subnetNet subnetMask
    if ret ≠ 0 then pure (some ret) else initServices s

/-- `lan_play_init` from the Wi-Fi capture on. -/
def initCaptures (s : Startup) (subnetNet subnetMask : Ip4) : LifeM (Option Int) := do
  let ret ← uvPcapInit s.windows .wifi s.wifi
  if ret ≠ 0 then pure (some ret) else initZerotier s subnetNet subnetMask

/-- `lan_play_init`: what it returns, unless the process ends in it. -/
def lanPlayInit (s : Startup) : LifeM (Option Int) := do
  winfwSetHotspotDhcpBlock s.windows s.dhcpServer
  if s.relayServer = some false then pure (some (-1))
  else
    match s.setup.network, s.setup.gateway with
    | some (subnetNet, subnetMask), some gateway =>
      if maskIp gateway subnetMask ≠ subnetNet then pure (some (-1))
      else initCaptures s subnetNet subnetMask
    | _, _ => pure (some (-1))

/-! ## The session and `lan_play_close` -/

/-- What a running session does to its handles. -/
inductive Step
  /-- A forwarded datagram reserves its source port. -/
  | reserve (port : Nat) (r : Reservation)
  /-- `capture_frame` flushes a file. -/
  | flush (i : Fin 5) (flushed : Bool)
  /-- A capture that fails to read is stopped. -/
  | readFailed (side : Side) (interface : Nat)

/-- Stop the loop handle of an interface, if there is one at that place. -/
def stopReading (side : Side) (inner : Option (List Interface)) (interface : Nat) : LifeM Unit :=
  match inner.getD [] |>.drop interface with
  | [] => pure ()
  | (_, device) :: _ => operate (.loopHandle side device)

def Step.run : Step → LifeM Unit
  | .reserve port r => do
    let _ ← nativeUdpGuardReserve port r
    pure ()
  | .flush i flushed => flushCapture i flushed
  | .readFailed side interface => do
    let h ← read
    stopReading side (match side with | .wifi => h.pcap | .zerotier => h.zerotierPcap) interface

def runSession : List Step → LifeM Unit
  | [] => pure ()
  | step :: rest => do
    step.run
    runSession rest

/-- `lan_client_close`. The broadcast timer is stopped but not closed. -/
def lanClientClose (closing : Closing) : LifeM Int := do
  let h ← read
  operateOn h.client .client
  if closing.recvStop ≠ 0 then pure closing.recvStop
  else do
    operateOn h.clientKeepaliveTimer .clientKeepaliveTimer
    if closing.keepaliveStop ≠ 0 then pure closing.keepaliveStop
    else do
      operateOn h.realBroadcastTimer .realBroadcastTimer
      if closing.realBroadcastStop ≠ 0 then pure closing.realBroadcastStop
      else do
        releaseOf h.client .client
        releaseOf h.clientKeepaliveTimer .clientKeepaliveTimer
        pure 0

/-- A connection waits for its SOCKS5 server. -/
def Startup.waits (s : Startup) (ready : Bool) : Bool :=
  !ready && s.socks5Server.isSome && !s.fakeInternet

/-- `TcpConnection::kill` stops the socket of the proxy, which may be `NULL`. -/
def kill (s : Startup) (ready : Bool) : LifeM Unit := if s.waits ready then stray else pure ()

def killAll (s : Startup) : List Bool → LifeM Unit
  | [] => pure ()
  | ready :: rest => do
    kill s ready
    killAll s rest

/-- The end of `~gateway`. `UvLwipBase` lets go of itself when `onSelfClose` runs for the
second time: after the timer's, and after the last of the connections, if there are any. It
shares the proxy with the gateway, but for `--fake-internet`. -/
def dropShared (s : Startup) (owner : Option Owner) (connections : List Bool) : LifeM Unit :=
  if connections ≠ [] then do
    releaseSet owner .lwip
    releaseSet owner .proxy
  else if s.fakeInternet then releaseSet owner .proxy
  else pure ()

/-- `gateway_close`. -/
def gatewayClose (s : Startup) (connections : List Bool) : LifeM Unit := do
  let h ← read
  update fun h => { h with listening := false }
  killAll s connections
  dropShared s h.gateway connections
  releaseSet h.gateway .gateway

/-- The end of `lan_play_close`. -/
def closeGateway (s : Startup) (closing : Closing) : LifeM Int := do
  gatewayClose s closing.connections
  winfwSetHotspotDhcpBlock s.windows false
  pure 0

/-- `lan_play_close` from the relay client on. -/
def closeServices (s : Startup) (closing : Closing) : LifeM Int :=
  if s.relayServer = none then closeGateway s closing
  else do
    let ret ← lanClientClose closing
    if ret ≠ 0 then pure ret else closeGateway s closing

/-- `uv_timer_stop` of the discovery timer; the handle is not closed. -/
def stopDiscovery (s : Startup) : LifeM Unit := do
  let h ← read
  if s.discoverSwitch then operateOn h.switchDiscoveryTimer .discoveryTimer else pure ()

/-- `native_udp_guard_received` for the log. -/
def logGuard (s : Startup) : LifeM Unit := do
  let h ← read
  if s.diagnostics ∧ h.udpGuard ≠ none then operate .udpGuard else pure ()

/-- The interfaces `uv_pcap_close` goes through, if neither an `inner` nor a `dev` is `NULL`. -/
def Handles.opened (h : Handles) : Option (List Interface × List Interface) :=
  match h.pcap, h.zerotierPcap with
  | some wifi, some zerotier => if h.capturesClosed then none else some (wifi, zerotier)
  | _, _ => none

/-- `lan_play_close` on captures that are open. -/
def closeOpened (s : Startup) (closing : Closing) (wifi zerotier : List Interface) : LifeM Int := do
  stopDiscovery s
  logGuard s
  dropGuard
  closeCaptures closing.flush
  uvPcapClose s.windows .wifi wifi
  uvPcapClose s.windows .zerotier zerotier
  update fun h => { h with capturesClosed := s.windows }
  closeServices s closing

/-- `lan_play_close`: what it returns, unless it gets to a `NULL` pointer in `uv_pcap_close`,
when it does not matter what it has done before. -/
def lanPlayClose (s : Startup) (closing : Closing) : LifeM (Option Int) := do
  let h ← read
  match h.opened with
  | none => pure none
  | some (wifi, zerotier) => do
    let ret ← closeOpened s closing wifi zerotier
    pure (some ret)

end Grid0Relay.Lifecycle
