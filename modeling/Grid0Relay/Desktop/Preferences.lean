import Grid0Relay.Relay.Dhcp
import Grid0Relay.Relay.Start

/-!
# The network arguments of the desktop application

`desktop/model.cpp`: what `Preferences::validate` accepts and the command line
`Preferences::arguments` makes of it. `QHostAddress` prints dotted quads; what else it reads is
left to the system. Texts are lists of characters; the messages keep the source's wording.
-/

namespace Grid0Relay

open Lib

abbrev Text := List Char

/-! ## `QHostAddress` -/

def octetText (b : UInt8) : Text := Nat.toDigits 10 b.toNat

/-- `QHostAddress(ip).toString()`. -/
def ipv4Text (ip : Ip4) : Text :=
  ['.'].intercalate [octetText (octet ip 0), octetText (octet ip 1), octetText (octet ip 2),
    octetText (octet ip 3)]

/-- What the application asks the system and its library: whether it is Windows, the capture
name Windows gives an adapter, whether a file can be run, and
`QHostAddress(text).toIPv4Address(&ok)`. -/
structure System where
  windows : Bool
  windowsCaptureName : Text → Text
  isExecutable : Text → Bool
  toIpv4Address : Text → Option UInt32

/-- The loop of `subnetFor` over the bits of the mask; 32 shifts clear it. -/
def prefixLength : Nat → UInt32 → Nat
  | 0, _ => 0
  | fuel + 1, n => if n = 0 then 0 else prefixLength fuel (n <<< 1) + 1

/-- `subnetFor`. -/
def subnetFor (sys : System) (ip mask : Text) : Text :=
  match sys.toIpv4Address ip, sys.toIpv4Address mask with
  | some addr, some bits =>
    if bits = 0 ∨ ~~~bits &&& (~~~bits + 1) ≠ 0 then []
    else ipv4Text (u32ToIpv4 (addr &&& bits)) ++ '/' :: Nat.toDigits 10 (prefixLength 32 bits)
  | _, _ => []

/-! ## Adapters and preferences -/

/-- `struct Adapter`. -/
structure Adapter where
  name : Text
  ip : Text
  mask : Text
  subnet : Text
  gateway : Text
  up : Bool
  hotspot : Bool

/-- `Adapter{}`. -/
def Adapter.empty : Adapter := ⟨[], [], [], [], [], false, false⟩

/-- `struct Preferences`. -/
structure Preferences where
  localInterface : Text
  overlayInterface : Text
  gateway : Text
  relayPath : Text
  diagnostics : Bool
  capture : Bool
  discover : Bool
  dhcp : Bool

namespace Preferences

/-- `Preferences::overlay`. -/
def overlay (p : Preferences) (all : List Adapter) : Adapter :=
  (all.find? (·.name == p.overlayInterface)).getD Adapter.empty

/-- The gateway the relay is told. -/
def chosenGateway (p : Preferences) (a : Adapter) : Text :=
  if p.gateway.isEmpty then a.gateway else p.gateway

/-- The gateway check of `Preferences::validate`. -/
def gatewayOk (p : Preferences) (sys : System) (a : Adapter) : Bool :=
  let g := p.chosenGateway a
  match sys.toIpv4Address g with
  | none => false
  | some value => !(subnetFor sys g a.mask != a.subnet || value &&& 255 == 0 || value &&& 255 == 255 ||
      g == a.ip)

/-- `Preferences::validate`: the first complaint, or an empty text. -/
def validate (p : Preferences) (sys : System) (all : List Adapter) : String :=
  let a := p.overlay all
  if p.localInterface.isEmpty || p.overlayInterface.isEmpty then
    "Choose your local and ZeroTier adapters in Settings."
  else if p.localInterface == p.overlayInterface then "Choose two different adapters."
  else if !all.any fun a => a.name == p.localInterface && a.up then
    "The saved local adapter is unavailable. Check Settings."
  else if sys.windows && p.dhcp && !all.any fun a => a.hotspot && a.up then
    "Turn on the PC mobile hotspot first (Play tab), then refresh adapters."
  else if !a.up || a.ip.isEmpty then
    "The saved ZeroTier adapter is unavailable. Connect ZeroTier, then refresh Settings."
  else if sys.windows && (sys.windowsCaptureName p.localInterface).isEmpty then
    "Cannot resolve the local Windows adapter. Refresh adapters and select it again."
  else if sys.windows && (sys.windowsCaptureName p.overlayInterface).isEmpty then
    "Cannot resolve the ZeroTier Windows adapter. Reconnect ZeroTier and refresh adapters."
  else if a.mask != "255.255.255.0".toList then
    "The current desktop relay supports a /24 ZeroTier network (255.255.255.0)."
  else if !p.gatewayOk sys a then
    "Choose an unused fake gateway in the ZeroTier subnet, different from the Switch IP."
  else if !sys.isExecutable p.relayPath then
    "The relay executable is missing. Select it in Settings → Advanced."
  else ""

/-- `Preferences::arguments`. -/
def arguments (p : Preferences) (sys : System) (all : List Adapter) (captures : Text) :
    List Text :=
  let a := p.overlay all
  let name := fun text => if sys.windows then sys.windowsCaptureName text else text
  ["--netif".toList, name p.localInterface, "--zerotier-if".toList, name p.overlayInterface,
    "--subnet".toList, a.subnet, "--gateway".toList, p.chosenGateway a, "--status-events".toList] ++
    (if p.diagnostics then ["--diagnostics".toList] else []) ++
    (if !p.discover then ["--no-discover-switch".toList] else []) ++
    (if p.dhcp then ["--dhcp".toList] else []) ++
    (if p.capture then ["--capture-prefix".toList, captures] else [])

end Preferences

/-! ## The relay's command line -/

/-- The options among these arguments that `parse_arguments` reads a value for. -/
def takesValue (arg : Text) : Bool :=
  ["--netif".toList, "--zerotier-if".toList, "--subnet".toList, "--gateway".toList,
    "--capture-prefix".toList].contains arg

/-- The value the command line gives an option. -/
def optionValue (name : Text) : List Text → Option Text
  | arg :: value :: rest =>
    if takesValue arg then if arg == name then some value else optionValue name rest
    else optionValue name (value :: rest)
  | _ => none

/-- The network options `lan_play_init` gets from a command line. -/
def Setup.withArguments (setup : Setup) (args : List Text) : Setup :=
  { setup with
    subnet := (optionValue "--subnet".toList args).map String.ofList
    gatewayIp := (optionValue "--gateway".toList args).map String.ofList }

end Grid0Relay
