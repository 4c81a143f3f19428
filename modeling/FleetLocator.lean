import FleetLocator.Proofs.Decimal.Order
import FleetLocator.Proofs.Driver.Exchange
import FleetLocator.Proofs.Driver.Locality
import FleetLocator.Proofs.Driver.Wire
import FleetLocator.Proofs.Geo.Bisection
import FleetLocator.Proofs.Geo.Cell
import FleetLocator.Proofs.Geo.Point
import FleetLocator.Proofs.Interface.Distances
import FleetLocator.Proofs.Interface.Identifier
import FleetLocator.Proofs.Interface.Lookup
import FleetLocator.Proofs.Interface.Search
import FleetLocator.Proofs.Interface.Status
import FleetLocator.Proofs.Json.Grammar
import FleetLocator.Proofs.Json.Integer
import FleetLocator.Proofs.Peer.Addressing
import FleetLocator.Proofs.Peer.Classification
import FleetLocator.Proofs.Peer.RoundTrip
import FleetLocator.Proofs.Rest.Answers
import FleetLocator.Proofs.Rest.Route
import FleetLocator.Proofs.RowStore.Fleet
import FleetLocator.Proofs.RowStore.Interleaving
import FleetLocator.Proofs.RowStore.Keys
import FleetLocator.Proofs.RowStore.Reachable
import FleetLocator.Proofs.RowStore.Reading
import FleetLocator.Proofs.RowStore.Row
import FleetLocator.Proofs.Search.Coincidence
import FleetLocator.Proofs.Search.Order
import FleetLocator.Proofs.Search.Relay
import FleetLocator.Proofs.Search.Selection
import FleetLocator.Proofs.Service.Accounting
import FleetLocator.Proofs.Service.Discipline
import FleetLocator.Proofs.Service.Frame
import FleetLocator.Proofs.Service.Freshness
import FleetLocator.Proofs.Service.History
import FleetLocator.Proofs.Service.Identity
import FleetLocator.Proofs.Service.Projection
import FleetLocator.Proofs.Text.Percent
import FleetLocator.Proofs.Text.Spelling
import FleetLocator.Proofs.Text.Utf8
import FleetLocator.Proofs.Web.Path
import FleetLocator.Rpc.Method
import FleetLocator.Setup
