import RegistrySession.Agent.Codec
import RegistrySession.Mcp.Codec
import RegistrySession.Session.Diagnostics
import RegistrySession.Rehearsal.Drill
import RegistrySession.Rehearsal.Report
import RegistrySession.Rehearsal.Script
import RegistrySession.Subscriptions.Callback
import RegistrySession.Proofs.Intent.Supersession
import RegistrySession.Proofs.Intent.Coherence
import RegistrySession.Proofs.Session.Acknowledged
import RegistrySession.Proofs.Session.Provenance
import RegistrySession.Proofs.Session.Convergence
import RegistrySession.Proofs.Session.Staleness
import RegistrySession.Proofs.Session.Fetching
import RegistrySession.Proofs.Session.Hearing
import RegistrySession.Proofs.Session.AtHand
import RegistrySession.Proofs.Watchlist.Introduction
import RegistrySession.Proofs.Session.FirstDelivery
import RegistrySession.Proofs.Watchlist.Latest
import RegistrySession.Proofs.Watchlist.Announcement
import RegistrySession.Proofs.Pool.Tasks
import RegistrySession.Proofs.Watchlist.Rota
import RegistrySession.Proofs.Session.Frame
import RegistrySession.Proofs.Session.Watching
import RegistrySession.Proofs.Watchlist.Spacing
import RegistrySession.Proofs.Session.Overlap
import RegistrySession.Proofs.Intent.Tidings
import RegistrySession.Proofs.Session.Disconnection
import RegistrySession.Proofs.Session.Refusal
import RegistrySession.Proofs.Session.Retrying
import RegistrySession.Proofs.Session.AtOnce
import RegistrySession.Proofs.Session.Withdrawal
import RegistrySession.Proofs.Session.Dispatch
import RegistrySession.Proofs.Session.Connection
import RegistrySession.Proofs.Session.Outage
import RegistrySession.Proofs.Session.Origin
import RegistrySession.Proofs.Session.Capability
import RegistrySession.Proofs.Session.Validity
import RegistrySession.Proofs.Session.InHand
import RegistrySession.Proofs.Session.Once
import RegistrySession.Proofs.Json.Nesting
import RegistrySession.Proofs.Json.Faithful
import RegistrySession.Proofs.Wire.RoundTrip
import RegistrySession.Proofs.Pool.Activity
import RegistrySession.Proofs.Pool.Staffing
import RegistrySession.Proofs.Pool.Apart
import RegistrySession.Proofs.Pool.Leaving
import RegistrySession.Proofs.Session.Isolation
import RegistrySession.Proofs.Pool.Closing
import RegistrySession.Proofs.Intent.Pruning
import RegistrySession.Proofs.Session.Leftovers
import RegistrySession.Proofs.Session.Pruning
import RegistrySession.Proofs.Subscriptions.Turns
import RegistrySession.Proofs.Subscriptions.Listing
import RegistrySession.Proofs.Pool.Punctual
import RegistrySession.Proofs.Wire.Settlement
import RegistrySession.Proofs.Session.Answers
