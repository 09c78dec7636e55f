import SocksGateway.Config.Basic
import SocksGateway.Gss.Scripted
import SocksGateway.Main
import SocksGateway.Server.Limiter
import SocksGateway.Server.Pairing
import SocksGateway.Session.Detection
import SocksGateway.Session.Run
import SocksGateway.Session.Script
import SocksGateway.Stream.Custody
import SocksGateway.Relay.Run
import SocksGateway.Proofs.Relay.History
import SocksGateway.Proofs.Relay.Settle
import SocksGateway.Proofs.Relay.Conservation
import SocksGateway.Proofs.Relay.Idle
import SocksGateway.Proofs.Routing.Admission
import SocksGateway.Proofs.Session.Admission
import SocksGateway.Proofs.Session.Handover
import SocksGateway.Proofs.Access.Pattern
import SocksGateway.Proofs.Access.Rule
import SocksGateway.Proofs.Address.Range
import SocksGateway.Proofs.Address.Text
import SocksGateway.Proofs.Routing.Assigned
import SocksGateway.Proofs.Routing.Mapped
import SocksGateway.Proofs.Routing.Spelling
import SocksGateway.Proofs.Store.Networks
import SocksGateway.Proofs.Target.Agreement
import SocksGateway.Proofs.Udp.Packet
import SocksGateway.Proofs.Udp.Forwarding
import SocksGateway.Proofs.Address.Ipv6
import SocksGateway.Proofs.Document.Json
import SocksGateway.Proofs.Server.Pairing
import SocksGateway.Proofs.Server.Partner
import SocksGateway.Proofs.Store.Records
import SocksGateway.Proofs.Store.Users
import SocksGateway.Proofs.Store.Durability
import SocksGateway.Proofs.Store.Membership
import SocksGateway.Proofs.Store.Edits
import SocksGateway.Proofs.Server.Limiter
import SocksGateway.Proofs.Stream.Custody
import SocksGateway.Proofs.Socks4.Grammar
import SocksGateway.Proofs.Socks4.Replies
import SocksGateway.Proofs.Gss.Transparency
import SocksGateway.Proofs.Socks4.Answers
import SocksGateway.Proofs.Store.Assignment
import SocksGateway.Proofs.Store.Accounts
import SocksGateway.Proofs.Store.Hosts
import SocksGateway.Proofs.Access.Glob
import SocksGateway.Proofs.Access.Verdict
import SocksGateway.Proofs.Routing.Respelling
import SocksGateway.Proofs.Socks5.Credentials
import SocksGateway.Proofs.Socks5.Selection
import SocksGateway.Proofs.Udp.Declared
import SocksGateway.Proofs.Udp.Recollection
import SocksGateway.Proofs.Server.Readiness
import SocksGateway.Proofs.Server.Sweeping
import SocksGateway.Proofs.Socks5.Dispatch
import SocksGateway.Proofs.Target.Replies
