import Tollgate.Http.Exchange
import Tollgate.Lifecycle
import Tollgate.Main
import Tollgate.Server
import Tollgate.Window.Wire
import Tollgate.Proofs.Keyed
import Tollgate.Proofs.Window.Ledger
import Tollgate.Proofs.Window.Member
import Tollgate.Proofs.Window.Verdict
import Tollgate.Proofs.Window.SlidingWindow
import Tollgate.Proofs.Window.Interleaving
import Tollgate.Proofs.Window.Sharing
import Tollgate.Proofs.Window.FailOpen
import Tollgate.Proofs.Window.Scopes
import Tollgate.Proofs.Registry.Catalogue
import Tollgate.Proofs.Registry.Run
import Tollgate.Proofs.Registry.BreakerContract
import Tollgate.Proofs.Registry.Forwarding
import Tollgate.Proofs.Registry.Life
import Tollgate.Proofs.Registry.Invariant
import Tollgate.Proofs.Registry.Isolation
import Tollgate.Proofs.Registry.RoundRobin
import Tollgate.Proofs.Monitor.Cycle
import Tollgate.Proofs.Monitor.Completion
import Tollgate.Proofs.Http.UriGrammar
import Tollgate.Proofs.Http.Fields
import Tollgate.Proofs.Route.Table
import Tollgate.Proofs.Text.Slashes
import Tollgate.Proofs.Http.Joining
import Tollgate.Proofs.Route.Prefix
import Tollgate.Proofs.Route.Lookup
import Tollgate.Proofs.Config.Validated
import Tollgate.Proofs.Config.Forwardable
import Tollgate.Proofs.Server.Visit
import Tollgate.Proofs.Server.Triage
import Tollgate.Proofs.Server.TwoScopes
import Tollgate.Proofs.Server.CutBody
import Tollgate.Proofs.Server.Destinations
import Tollgate.Proofs.Server.UserId
import Tollgate.Proofs.Broadcast.Delivery
import Tollgate.Proofs.Lifecycle.Stopping
import Tollgate.Proofs.Window.Reset
import Tollgate.Proofs.Registry.TrialRequests
import Tollgate.Proofs.Http.Transparency
import Tollgate.Proofs.Route.Rewrite
import Tollgate.Proofs.Server.Rewriting
import Tollgate.Proofs.Config.Problems
import Tollgate.Proofs.Window.Retention
import Tollgate.Proofs.Server.HealthReport
import Tollgate.Proofs.Server.HealthPaths
import Tollgate.Proofs.Window.Ownership
import Tollgate.Proofs.Registry.ErrorCount
