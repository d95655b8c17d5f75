import Grid0Relay.Desktop.Preferences
import Grid0Relay.Lib.Literal
import Grid0Relay.Lib.Shell

/-!
# The administrator command of the desktop applications

`desktop/model.cpp` and `desktop/controller.cpp`: the command `RelayController::start` gives
to `osascript`. Then the same of the macOS application in Swift, whose `shellQuote` writes
something else for a quote.
-/

namespace Grid0Relay

open Lib Lib.Shell

/-- `s.replace(c, text)` for a pattern of one character. -/
def replaceAll (c : Char) (text s : Text) : Text := s.flatMap fun d => if d = c then text else [d]

/-- `list.join(' ')`. -/
def joinWords (l : List Text) : Text := [' '].intercalate l

/-! ## The Qt application -/

/-- `shellQuote`. -/
def shellQuote (s : Text) : Text :=
  [squote] ++ replaceAll squote [squote, dquote, squote, dquote, squote] s ++ [squote]

/-- `appleScriptQuote`. -/
def appleScriptQuote (s : Text) : Text :=
  let s := replaceAll backslash [backslash, backslash] s
  let s := replaceAll dquote [backslash, dquote] s
  let s := replaceAll '\n' [backslash, 'n'] s
  let s := replaceAll '\r' [backslash, 'r'] s
  [dquote] ++ s ++ [dquote]

namespace RelayController

/-- The argument vector of `RelayController::start`: the helper, and what it is to run. -/
def command (helper serverName : Text) (uid : Nat) (relay : Text) (p : Preferences) (sys : System)
    (adapters : List Adapter) (report : Text) : List Text :=
  [helper, serverName, Nat.toDigits 10 uid, relay] ++
    p.arguments sys adapters (report ++ "/packets".toList)

def scriptLead : Text := "with timeout of 604800 seconds\n do shell script ".toList

def scriptTail : Text := " with administrator privileges\nend timeout".toList

/-- The program `RelayController::start` runs on macOS, and its arguments. -/
def authorize (command : List Text) : Text × List Text :=
  ("/usr/bin/osascript".toList, ["-e".toList,
    scriptLead ++ appleScriptQuote (joinWords (command.map shellQuote)) ++ scriptTail])

end RelayController

/-- What AppleScript gives to the shell for such a script. -/
def doShellScript (script : Text) : Option Text := do
  let rest ← RelayController.scriptLead.isPrefixOf? script
  let (command, rest) ← Literal.appleScript.read rest
  if rest = RelayController.scriptTail then some command else none

/-! ## The Swift application -/

/-- `RelayModel`. -/
structure RelayModel where
  relayPath : Text
  wifiInterface : Text
  zeroTierInterface : Text
  subnet : Text
  gateway : Text
  diagnostics : Bool
  discoverSwitch : Bool
  logPath : Text

namespace RelayModel

/-- `RelayModel.shellQuote`. -/
def shellQuote (value : Text) : Text :=
  [squote] ++
    replaceAll squote [squote, backslash, dquote, squote, backslash, dquote, squote] value ++
    [squote]

/-- The arguments of `relayCommand`. -/
def arguments (m : RelayModel) : List Text :=
  [m.relayPath, "--netif".toList, m.wifiInterface, "--zerotier-if".toList, m.zeroTierInterface,
    "--subnet".toList, m.subnet, "--gateway".toList, m.gateway] ++
    (if m.diagnostics then ["--diagnostics".toList] else []) ++
    (if !m.discoverSwitch then ["--no-discover-switch".toList] else [])

def executable (m : RelayModel) : Text := joinWords (m.arguments.map shellQuote)

/-- `relayCommand`: the relay in the background, and a wait for its first line. -/
def relayCommand (m : RelayModel) : Text :=
  let log := shellQuote m.logPath
  ['\n'].intercalate [
    m.executable ++ " > ".toList ++ log ++ " 2>&1 &".toList,
    "relay_pid=$!".toList,
    "attempts=0".toList,
    "while [ \"$attempts\" -lt 100 ]; do".toList,
    "    if ! kill -0 \"$relay_pid\" 2>/dev/null; then".toList,
    "        cat ".toList ++ log ++ " >&2".toList,
    "        exit 1".toList,
    "    fi".toList,
    "    if /usr/bin/grep -q \"^Relay started (PID $relay_pid)$\" ".toList ++ log ++ "; then".toList,
    "        echo \"$relay_pid\"".toList,
    "        exit 0".toList,
    "    fi".toList,
    "    sleep 0.1".toList,
    "    attempts=$((attempts + 1))".toList,
    "done".toList,
    "kill -INT \"$relay_pid\" 2>/dev/null".toList,
    "echo \"Relay did not finish initialization. Check the relay log.\" >&2".toList,
    "exit 1".toList]

end RelayModel

end Grid0Relay
