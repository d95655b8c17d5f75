import Grid0Relay.Lib.Bytes
import Grid0Relay.Lib.OnesComplement
import Grid0Relay.Lib.Exec
import Grid0Relay.Lib.Slots
import Grid0Relay.Relay.State
import Grid0Relay.Relay.Memory
import Grid0Relay.Relay.Checksum
import Grid0Relay.Relay.Transmit
import Grid0Relay.Relay.Gateway
import Grid0Relay.Relay.NintendoOui
import Grid0Relay.Relay.Dhcp
import Grid0Relay.Relay.Console
import Grid0Relay.Relay.Handlers
import Grid0Relay.Relay.Start
import Grid0Relay.Logic.Senders
import Grid0Relay.Logic.Rewrite
import Grid0Relay.Logic.Console
import Grid0Relay.Logic.Footprint
import Grid0Relay.Logic.Relay
import Grid0Relay.Logic.Handlers
import Grid0Relay.Logic.Reach
import Grid0Relay.Lib.Election
import Grid0Relay.Theorems.ConsoleSelection
import Grid0Relay.Theorems.Translation
import Grid0Relay.Theorems.Neighbors
import Grid0Relay.Logic.Egress
import Grid0Relay.Logic.Carrier
import Grid0Relay.Theorems.Egress
import Grid0Relay.Theorems.Reflection
import Grid0Relay.Logic.Dhcp
import Grid0Relay.Theorems.EndToEnd
import Grid0Relay.Logic.Safety
import Grid0Relay.Theorems.Bounds
import Grid0Relay.Logic.Leases
import Grid0Relay.Logic.DhcpServer
import Grid0Relay.Theorems.Leases
import Grid0Relay.Theorems.Offers
import Grid0Relay.Lib.Expiry
import Grid0Relay.Logic.ArpCache
import Grid0Relay.Theorems.ArpCache
import Grid0Relay.Theorems.OverlayUnicast
import Grid0Relay.Desktop.Preferences
import Grid0Relay.Lib.Fifo
import Grid0Relay.Lwip.Client
import Grid0Relay.Theorems.NetworkArguments
import Grid0Relay.Logic.WriteQueue
import Grid0Relay.Logic.WriteStream
import Grid0Relay.Theorems.WriteQueue
import Grid0Relay.Theorems.ReadStream
import Grid0Relay.Theorems.WriteCompletion
import Grid0Relay.Lib.Ledger
import Grid0Relay.Relay.Lifecycle
import Grid0Relay.Logic.Lifecycle
import Grid0Relay.Theorems.Lifecycle
import Grid0Relay.Logic.UdpGuard
import Grid0Relay.Theorems.Endpoints
import Grid0Relay.Lib.TwoRuns
import Grid0Relay.Logic.Blind
import Grid0Relay.Logic.Start
import Grid0Relay.Theorems.Restart
import Grid0Relay.Lib.Stream
import Grid0Relay.Rpc.Connection
import Grid0Relay.Rpc.WebSocket
import Grid0Relay.Logic.RpcLines
import Grid0Relay.Logic.RpcFrames
import Grid0Relay.Theorems.WebSocketAuthorisation
import Grid0Relay.Forwarder.Server
import Grid0Relay.Logic.Forwarder
import Grid0Relay.Logic.ForwarderRuns
import Grid0Relay.Theorems.InboundAuthentication
import Grid0Relay.Logic.ForwarderRoutes
import Grid0Relay.Theorems.OutboundConfidentiality
import Grid0Relay.Theorems.ChallengeFreshness
import Grid0Relay.Logic.Transport
import Grid0Relay.Theorems.TransportChecksums
import Grid0Relay.Theorems.Fragments
import Grid0Relay.Theorems.DhcpParse
import Grid0Relay.Theorems.DhcpReplies
import Grid0Relay.Theorems.ArpSlots
import Grid0Relay.Logic.Probe
import Grid0Relay.Theorems.DeliveryProbe
import Grid0Relay.Theorems.UdpProxy
import Grid0Relay.Logic.Checksums
import Grid0Relay.Theorems.Checksums
import Grid0Relay.Lib.Shell
import Grid0Relay.Lib.Literal
import Grid0Relay.Desktop.Quoting
import Grid0Relay.Theorems.Quoting
import Grid0Relay.Theorems.WriteErrors
import Grid0Relay.Theorems.BufferList
import Grid0Relay.Theorems.ReadLine
import Grid0Relay.Theorems.FrameDecoding
import Grid0Relay.Theorems.HandshakeBoundary
import Grid0Relay.Lib.Toml
import Grid0Relay.Logic.Session
import Grid0Relay.Theorems.Commands
import Grid0Relay.Theorems.Replies
import Grid0Relay.Theorems.Discovery
import Grid0Relay.Theorems.SubnetText
import Grid0Relay.Theorems.Socks5
import Grid0Relay.Theorems.PasswordTable
import Grid0Relay.Logic.LanClient
import Grid0Relay.Theorems.LanClientBounds
import Grid0Relay.Theorems.FragmentForwarding
import Grid0Relay.Theorems.Reassembly
import Grid0Relay.Desktop.Supervisor
import Grid0Relay.Theorems.Supervisor
import Grid0Relay.Relay.ProxyTable
import Grid0Relay.Theorems.FragmentSlots
import Grid0Relay.Theorems.Login
import Grid0Relay.Theorems.ProxyTable
