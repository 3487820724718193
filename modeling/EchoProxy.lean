import EchoProxy.Lib.Coupled
import EchoProxy.Lib.Transition
import EchoProxy.Lib.Channel
import EchoProxy.Mux
import EchoProxy.Proofs.ClientInvariant
import EchoProxy.Proofs.ClientSteps
import EchoProxy.Proofs.EndToEnd
import EchoProxy.Proofs.Deadlock
import EchoProxy.Proofs.WireFormat
import EchoProxy.Proofs.Ssrf
import EchoProxy.Proofs.Teardown
import EchoProxy.Proofs.Closing
import EchoProxy.Proofs.Release
import EchoProxy.Proofs.Incarnations
import EchoProxy.Proofs.HttpRelay
import EchoProxy.Proofs.FrameLimits
import EchoProxy.Proofs.Routing
import EchoProxy.Proofs.Isolation
import EchoProxy.Proofs.FrontEnd
import EchoProxy.Proofs.HalfClose
import EchoProxy.Proofs.Reconnect
import EchoProxy.Proofs.StreamIds
import EchoProxy.Proofs.Arrival
import EchoProxy.Proofs.BackPressure
import EchoProxy.Proofs.Authentication
import EchoProxy.Lib.Loop
import EchoProxy.Geo
import EchoProxy.Lib.Dialogue
import EchoProxy.Socks
import EchoProxy.Lib.BitPrefix
import EchoProxy.Proofs.GeoTags
import EchoProxy.Proofs.GeoIp
import EchoProxy.Proofs.GeoSite
import EchoProxy.Proofs.HttpFraming
import EchoProxy.Proofs.RequestTarget
import EchoProxy.Proofs.Socks
import EchoProxy.Proofs.Backoff
import EchoProxy.Proofs.Shutdown
import EchoProxy.Lib.Signal
import EchoProxy.Stoppable
import EchoProxy.Proofs.ServerShutdown
import EchoProxy.Lib.Regular
import EchoProxy.RegexSyntax
import EchoProxy.Proofs.GeoRegex
import EchoProxy.RelayTcp
import EchoProxy.Proofs.Registration
import EchoProxy.Proofs.StreamEnd
import EchoProxy.Proofs.Refusal
import EchoProxy.Proofs.Entries
import EchoProxy.Reception
import EchoProxy.Proofs.Replies
import EchoProxy.Accept
import EchoProxy.Proofs.Segmentation
import EchoProxy.Proofs.Handshake
import EchoProxy.Proofs.HostField
import EchoProxy.Proofs.HostPatterns
import EchoProxy.Proofs.IpPatterns
import EchoProxy.Proofs.RootDot
import EchoProxy.Proofs.Confinement
import EchoProxy.Session
import EchoProxy.Proofs.Delivery
import EchoProxy.Proofs.HttpLimits
import EchoProxy.SocksReception
import EchoProxy.Proofs.SocksReplies
import EchoProxy.Proofs.SocksReception
import EchoProxy.Lib.Rank
import EchoProxy.Proofs.Work
import EchoProxy.Deployment
import EchoProxy.Proofs.DeploymentSteps
import EchoProxy.Proofs.Lines
import EchoProxy.Proofs.Deployment
import EchoProxy.Proofs.DirectRelay
import EchoProxy.Direct
import EchoProxy.Proofs.Direct
import EchoProxy.HttpReception
import EchoProxy.Proofs.HttpReception
import EchoProxy.Proofs.Keeper
import EchoProxy.Proofs.RoutingRules
import EchoProxy.Proofs.Tokens
import EchoProxy.Whole
import EchoProxy.Proofs.Whole
