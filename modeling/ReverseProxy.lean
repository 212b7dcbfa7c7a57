import ReverseProxy.Config.Encode
import ReverseProxy.Config.Load
import ReverseProxy.Config.Store
import ReverseProxy.Gateway.Server
import ReverseProxy.Main
import ReverseProxy.Proofs.Balance.Operation
import ReverseProxy.Proofs.Balance.Rotation
import ReverseProxy.Proofs.Balance.Starvation
import ReverseProxy.Proofs.Balance.Priority
import ReverseProxy.Proofs.Balance.Division
import ReverseProxy.Proofs.Gateway.Construction
import ReverseProxy.Proofs.Gateway.Traffic
import ReverseProxy.Proofs.Gateway.Product
import ReverseProxy.Proofs.Routing.Compilation
import ReverseProxy.Proofs.Routing.Lookup
import ReverseProxy.Proofs.Routing.Dispatch
import ReverseProxy.Proofs.Routing.Order
import ReverseProxy.Proofs.Config.Soundness
import ReverseProxy.Proofs.Gateway.Assembly
import ReverseProxy.Proofs.Balance.Marks
import ReverseProxy.Proofs.Balance.Footprint
import ReverseProxy.Proofs.Health.Punctual
import ReverseProxy.Proofs.Gateway.Harmless
import ReverseProxy.Proofs.Gateway.Outcome
import ReverseProxy.Proofs.Gateway.AccessLog
import ReverseProxy.Proofs.Health.Signals
import ReverseProxy.Proofs.Health.Wiring
import ReverseProxy.Proofs.Health.Happening
import ReverseProxy.Proofs.Health.Stop
import ReverseProxy.Proofs.Http.Authority
import ReverseProxy.Proofs.Url.Ipv6
import ReverseProxy.Proofs.Url.Reading
import ReverseProxy.Proofs.Unicode.Ascii
import ReverseProxy.Proofs.Url.Name
import ReverseProxy.Proofs.Gateway.Contact
import ReverseProxy.Proofs.Url.Colon
import ReverseProxy.Proofs.Health.OnTime
import ReverseProxy.Proofs.Gateway.Reticence
import ReverseProxy.Proofs.Config.RoundTrip
import ReverseProxy.Proofs.Balance.Selection
import ReverseProxy.Proofs.Balance.OneSided
import ReverseProxy.Proofs.Balance.Spelling
import ReverseProxy.Proofs.Config.Tally
import ReverseProxy.Proofs.Plugin.Failover
import ReverseProxy.Proofs.Routing.Guard
import ReverseProxy.Proofs.Http.Rewrite
import ReverseProxy.Proofs.Gateway.HopByHop
import ReverseProxy.Proofs.Gateway.Choice
import ReverseProxy.Proofs.Gateway.RequestId
import ReverseProxy.Proofs.Balance.Labels
import ReverseProxy.Proofs.Health.Accounts
import ReverseProxy.Proofs.Gateway.Draws
