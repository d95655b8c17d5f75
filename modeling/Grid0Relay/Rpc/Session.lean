import Grid0Relay.Lib.Decimal
import Grid0Relay.Lib.Exec
import Grid0Relay.Lib.Strtol
import Grid0Relay.Relay.Lifecycle
import Grid0Relay.Rpc.Connection

/-!
# The session behind an RPC connection

`RPCServerSession::onMessage` and the `LanPlay` it drives. What the rest of the process
and the system answer is a `Machine`: whether the server is still there, the adapters, what
`lan_play_init` and `lan_play_close` ask for, the counters and the clock.
-/

namespace Grid0Relay.Session

open Lib Lib.Exec
open Lifecycle (Startup Closing Handles)
open Rpc (text)

/-! ## Strings -/

/-- `std::string::find` in what begins at position `i`. -/
def findFrom (src : Bytes) : Bytes → Nat → Option Nat
  | [], i => if src = [] then some i else none
  | b :: rest, i => if src <+: b :: rest then some i else findFrom src rest (i + 1)

/-- `str.find(src, pos)`. -/
def find (str src : Bytes) (pos : Nat) : Option Nat :=
  if pos ≤ str.length then findFrom src (str.drop pos) pos else none

/-- `str.replace(pos, n, dst)`. -/
def replace (str : Bytes) (pos n : Nat) (dst : Bytes) : Bytes :=
  str.take pos ++ dst ++ str.drop (pos + n)

/-- The loop of `stringReplace`. -/
def replaceLoop (src dst : Bytes) : Nat → Bytes → Option Nat → Bytes
  | 0, str, _ => str
  | _ + 1, str, none => str
  | fuel + 1, str, some pos =>
    let str := replace str pos src.length dst
    replaceLoop src dst fuel str (find str src (pos + dst.length))

/-- Every round of the loop takes a nonempty `src` off the part of `str` it has not seen. -/
def stringReplace (str src dst : Bytes) : Bytes :=
  replaceLoop src dst (str.length + 1) str (find str src 0)

def escape (value : Bytes) : Bytes :=
  text "\"" ++ stringReplace value (text "\"") (text "\\\"") ++ text "\""

/-- `key=value`, the common form of the overloads of `kv`. -/
def kv (key value : Bytes) : Bytes := key ++ text "=" ++ value ++ text "\n"

def kvString (key value : Bytes) : Bytes := kv key (escape value)

def kvInt (key : Bytes) (value : Int32) : Bytes := kv key (decimalInt value.toInt)

def kvBool (key : Bytes) (value : Bool) : Bytes := kv key (if value then text "true" else text "false")

def kvUint64 (key : Bytes) (value : UInt64) : Bytes := kv key (decimal value.toNat)

def error (value : Bytes) : Bytes := kvString (text "error") value

/-- `c_str()`, read up to its end. -/
def cStr (str : Bytes) : Bytes := str.takeWhile (· ≠ 0)

/-! ## `std::stoi` -/

inductive StoiError
  | invalidArgument
  | outOfRange
deriving DecidableEq

/-- The characters of a C string. -/
def chars (value : Bytes) : List Char := value.map fun b => Char.ofNat b.toNat

/-- `std::stoi(value, nullptr, 0)`. -/
def stoi (value : Bytes) : Except StoiError Int32 :=
  let parsed := Strtol.strtol 0 (chars value)
  if parsed.1 < -2 ^ 31 ∨ 2 ^ 31 ≤ parsed.1 then .error .outOfRange
  else if parsed.2 = chars value then .error .invalidArgument
  else .ok (Int32.ofInt parsed.1)

/-! ## `LanPlay` -/

structure LanPlayConfig where
  relayServer : Bytes
  socks5Server : Bytes
  fakeInternet : Bool
  broadcast : Bool
  pmtu : Int32
deriving DecidableEq

/-- A new `LanPlayConfig`. -/
def LanPlayConfig.init : LanPlayConfig := ⟨[], [], false, false, 0⟩

inductive LanPlayStatus
  | none
  | running
deriving DecidableEq

structure LanPlayStatsItem where
  uploadByte : UInt64
  uploadPacket : UInt64
  downloadByte : UInt64
  downloadPacket : UInt64

structure LanPlayStats where
  client : LanPlayStatsItem
  packet : LanPlayStatsItem
  time : UInt64

structure NetInterface where
  name : Bytes
  description : Bytes
  ips : List Bytes

/-- An address of a `pcap_if_t`: `AF_INET`, or another family. -/
inductive PcapAddr
  | inet (a b c d : UInt8)
  | other

structure PcapIf where
  name : Bytes
  description : Option Bytes
  addresses : List PcapAddr

/-- A string of the options: of `strdup`, or a part of `argv` or of the program. -/
structure OptionText where
  text : Bytes
  allocated : Bool

/-- The options that `LanPlay::applyConfig` sets. -/
structure Options where
  broadcast : Bool
  fakeInternet : Bool
  pmtu : Int32
  relayServerAddr : Option OptionText
  socks5ServerAddr : Option OptionText

structure LanPlay where
  lastError : Bytes
  lastConfig : LanPlayConfig
  status : LanPlayStatus
  config : LanPlayConfig

/-- What is asked of the process and the system. Answers may differ from one question to the
next. -/
structure Machine where
  alive : Nat → Bool
  devices : Nat → Except Bytes (List PcapIf)
  /-- The other options, and the answers to `lan_play_init`. -/
  startup : Nat → Startup
  /-- `parse_addr` succeeds. -/
  parseAddr : Nat → Bytes → Bool
  closing : Nat → Closing
  /-- The `last_err` of a call that failed. -/
  lastErr : Nat → Bytes
  counters : Nat → LanPlayStatsItem × LanPlayStatsItem
  now : Nat → UInt64
  version : Bytes
  /-- `what()` of a `std::invalid_argument`. -/
  what : Bytes

structure World where
  lanPlay : LanPlay
  options : Options
  /-- The handles of `real_lan_play`. -/
  handles : Handles
  asked : Nat

/-- How `onMessage` does not return. -/
inductive Escaped
  | outOfRange
  /-- `free` of what was not allocated. -/
  | badFree
  /-- `exit` in `gateway_init`. -/
  | exited
  /-- `lan_play_close` reads through `NULL`. -/
  | nullPointer
deriving DecidableEq

abbrev SessionM := EStateM Escaped World

def ask {α : Type} (answer : Nat → α) : SessionM α :=
  modifyGet fun w => (answer w.asked, { w with asked := w.asked + 1 })

def modifyLanPlay (f : LanPlay → LanPlay) : SessionM Unit :=
  modify fun w => { w with lanPlay := f w.lanPlay }

def setError (lastError : Bytes) : SessionM Unit := modifyLanPlay fun s => { s with lastError }

/-- `options_relay_server_addr` and `options_socks5_server_addr` free the old string. -/
def Options.allocated (o : Options) : Bool :=
  o.relayServerAddr.all (·.allocated) && o.socks5ServerAddr.all (·.allocated)

/-- And copy the new one. -/
def optionsAddr (str : Bytes) : Option OptionText :=
  if cStr str = [] then none else some ⟨cStr str, true⟩

/-- `applyConfig`, where it gets to its end. -/
def World.applied (w : World) : World :=
  { w with
    options := {
      broadcast := w.lanPlay.config.broadcast
      fakeInternet := w.lanPlay.config.fakeInternet
      pmtu := w.lanPlay.config.pmtu
      relayServerAddr := optionsAddr w.lanPlay.config.relayServer
      socks5ServerAddr := optionsAddr w.lanPlay.config.socks5Server }
    lanPlay := { w.lanPlay with lastConfig := w.lanPlay.config } }

def applyConfig : SessionM Unit := do
  let w ← get
  if w.options.allocated then set w.applied else throw .badFree

section

variable (m : Machine)

/-- What the relay is started with. -/
def World.startup (w : World) : Startup :=
  { m.startup w.asked with
    fakeInternet := w.options.fakeInternet
    relayServer := w.options.relayServerAddr.map fun addr => m.parseAddr w.asked addr.text
    socks5Server := w.options.socks5ServerAddr.map fun addr => m.parseAddr w.asked addr.text }

/-- `lan_play_init` on `real_lan_play`. -/
def World.init (w : World) : Option Int × Handles :=
  let started := Lifecycle.lanPlayInit (w.startup m) ⟨w.handles.inherited, 0, 0⟩
  (started.1, started.2.state)

/-- `lan_play_close`, likewise. -/
def World.close (w : World) : Option Int × Handles :=
  let closed := Lifecycle.lanPlayClose (w.startup m) (m.closing w.asked) ⟨w.handles, 0, 0⟩
  (closed.1, closed.2.state)

/-- The end of `start` and `stop`: the call into the relay, and what its result leads to. -/
def finish (call : World → Option Int × Handles) (escaped : Escaped) (status : LanPlayStatus) :
    SessionM Int := do
  let w ← get
  match call w with
  | (none, _) => throw escaped
  | (some ret, handles) => do
    set { w with handles, asked := w.asked + 1 }
    if ret = 0 then modifyLanPlay fun s => { s with status } else setError (m.lastErr w.asked)
    pure ret

def start : SessionM Int := do
  let w ← get
  if w.lanPlay.status = .running then do
    setError (text "Already running")
    pure (-1)
  else do
    applyConfig
    finish m (·.init m) .exited .running

def stop : SessionM Int := do
  let w ← get
  if w.lanPlay.status = .none then do
    setError (text "Already stopped")
    pure (-1)
  else finish m (·.close m) .nullPointer .none

end

/-- `inet_ntoa`. -/
def inetNtoa (a b c d : UInt8) : Bytes :=
  decimal a.toNat ++ text "." ++ decimal b.toNat ++ text "." ++ decimal c.toNat ++ text "." ++
    decimal d.toNat

/-- The entry of one device. -/
def netInterface (d : PcapIf) : NetInterface where
  name := d.name
  description := d.description.getD []
  ips := d.addresses.filterMap fun
    | .inet a b c d => some (inetNtoa a b c d)
    | .other => none

/-- `none` is the result -1. -/
def getNetInterfaces (m : Machine) : SessionM (Option (List NetInterface)) := do
  match ← ask m.devices with
  | .error errBuf => do
    setError errBuf
    pure none
  | .ok devices => pure (some (devices.map netInterface))

def getStats (m : Machine) : SessionM (Option LanPlayStats) := do
  let w ← get
  if w.lanPlay.status = .none then do
    setError (text "Not running")
    pure none
  else do
    let counters ← ask m.counters
    let time ← ask m.now
    pure (some ⟨counters.1, counters.2, time⟩)

/-! ## Replies -/

/-- `getConfig` with the name of the table. -/
def showConfig (name : Bytes) (config : LanPlayConfig) : Bytes :=
  text "[" ++ name ++ text "]\n" ++ kvString (text "relayServer") config.relayServer ++
    kvString (text "socks5Server") config.socks5Server ++ kvInt (text "pmtu") config.pmtu ++
    kvBool (text "fakeInternet") config.fakeInternet ++ kvBool (text "broadcast") config.broadcast

def showStatsItem (item : LanPlayStatsItem) : Bytes :=
  kvUint64 (text "downloadByte") item.downloadByte ++
    kvUint64 (text "downloadPacket") item.downloadPacket ++
    kvUint64 (text "uploadByte") item.uploadByte ++
    kvUint64 (text "uploadPacket") item.uploadPacket

/-- The `getStats` that writes them. -/
def showStats (stats : LanPlayStats) : Bytes :=
  text "[stats]\n" ++ kvUint64 (text "time") stats.time ++ text "[stats.client]\n" ++
    showStatsItem stats.client ++ text "[stats.packet]\n" ++ showStatsItem stats.packet

/-- The lines of one adapter. -/
def showInterface (netif : NetInterface) : Bytes :=
  text "[[interfaces]]\n" ++ kvString (text "name") netif.name ++
    kvString (text "description") netif.description ++ text "ips=[\n" ++
    netif.ips.flatMap (fun ip => text "  " ++ escape ip ++ text ",\n") ++ text "]\n"

/-! ## `RPCServerSession::onMessage` -/

inductive Command
  | status
  | listIf
  | version
  | start
  | stop
  | config
  | lastConfig
  | relayServer
  | socks5Server
  | fakeInternet
  | broadcast
  | pmtu
  | stats
  | unknown
deriving DecidableEq

def Command.ofKey (key : Bytes) : Command :=
  if key = text "status" then .status
  else if key = text "listIf" then .listIf
  else if key = text "version" then .version
  else if key = text "start" then .start
  else if key = text "stop" then .stop
  else if key = text "config" then .config
  else if key = text "lastConfig" then .lastConfig
  else if key = text "relayServer" then .relayServer
  else if key = text "socks5Server" then .socks5Server
  else if key = text "fakeInternet" then .fakeInternet
  else if key = text "broadcast" then .broadcast
  else if key = text "pmtu" then .pmtu
  else if key = text "stats" then .stats
  else .unknown

def statusText : LanPlayStatus → Bytes
  | .none => text "None"
  | .running => text "Running"

def lastError : SessionM Bytes := (fun w => error w.lanPlay.lastError) <$> get

/-- Change the configuration and show it. -/
def configure (f : LanPlayConfig → LanPlayConfig) : SessionM Bytes := do
  modifyLanPlay fun s => { s with config := f s.config }
  let w ← get
  pure (showConfig (text "config") w.lanPlay.config)

/-- The branches of `onMessage`. -/
def run (m : Machine) (key value : Bytes) : Command → SessionM Bytes
  | .status => (fun w => kvString (text "status") (statusText w.lanPlay.status)) <$> get
  | .listIf => do
    match ← getNetInterfaces m with
    | some list => pure (list.flatMap showInterface)
    | none => lastError
  | .version => pure (kvString (text "version") m.version)
  | .start => do
    if (← start m) = 0 then pure (kvString (text "status") (text "Running")) else lastError
  | .stop => do
    if (← stop m) = 0 then pure (kvString (text "status") (text "None")) else lastError
  | .config => (fun w => showConfig (text "config") w.lanPlay.config) <$> get
  | .lastConfig => (fun w => showConfig (text "lastConfig") w.lanPlay.lastConfig) <$> get
  | .relayServer => configure fun c => { c with relayServer := value }
  | .socks5Server => configure fun c => { c with socks5Server := value }
  | .fakeInternet => configure fun c => { c with fakeInternet := value = text "true" }
  | .broadcast => configure fun c => { c with broadcast := value = text "true" }
  | .pmtu =>
    match stoi value with
    | .ok pmtu => configure fun c => { c with pmtu }
    | .error .invalidArgument => pure (error m.what)
    | .error .outOfRange => throw .outOfRange
  | .stats => do
    match ← getStats m with
    | some stats => pure (showStats stats)
    | none => lastError
  | .unknown => pure (error (text "command not found: " ++ key))

/-- What stands in front of the first `=`. -/
def keyOf (message : Bytes) : Bytes := message.takeWhile (· ≠ 61)

/-- What stands behind it. -/
def valueOf (message : Bytes) : Bytes := (message.dropWhile (· ≠ 61)).drop 1

def onMessage (m : Machine) (message : Bytes) : SessionM Bytes := do
  let alive ← ask m.alive
  if alive then run m (keyOf message) (valueOf message) (.ofKey (keyOf message))
  else pure (text "server lost")

end Grid0Relay.Session
