import GatewayMigration.Main
import GatewayMigration.Provider.Progress
import GatewayMigration.Proofs.OrderedMap
import GatewayMigration.Proofs.RuleGroup.Gathering
import GatewayMigration.Proofs.Conversion.Settlement
import GatewayMigration.Proofs.Conversion.Conflict
import GatewayMigration.Proofs.Conversion.Listeners
import GatewayMigration.Proofs.Gce.Routing
import GatewayMigration.Proofs.Conversion.References
import GatewayMigration.Proofs.Conversion.Certificates
import GatewayMigration.Proofs.Conversion.IdleGateway
import GatewayMigration.Proofs.Conversion.Accounting
import GatewayMigration.Proofs.Conversion.Precedence
import GatewayMigration.Proofs.Conversion.Merging
import GatewayMigration.Proofs.Conversion.PathTypes
import GatewayMigration.Proofs.Conversion.Extensionality
import GatewayMigration.Proofs.Conversion.Endpoints
import GatewayMigration.Proofs.Conversion.Commutation
import GatewayMigration.Proofs.Gce.Resolution
import GatewayMigration.Proofs.Gce.Arrangement
import GatewayMigration.Proofs.Conversion.Namespace
import GatewayMigration.Proofs.Gce.Documents
import GatewayMigration.Proofs.Gce.Namespace
import GatewayMigration.Proofs.Gce.Isolation
import GatewayMigration.Proofs.Gce.Classes
import GatewayMigration.Proofs.RuleGroup.Splitting
import GatewayMigration.Proofs.Conversion.Splitting
import GatewayMigration.Proofs.GatewayApi
import GatewayMigration.Proofs.Gce.Policies
import GatewayMigration.Proofs.Topology.Rendering
import GatewayMigration.Proofs.Topology.RoundTrip
import GatewayMigration.Proofs.HostName.Collisions
import GatewayMigration.Proofs.HostName.Subdomain
import GatewayMigration.Proofs.Gce.Lossless
import GatewayMigration.Proofs.Cluster
import GatewayMigration.Proofs.Provider.Steps
import GatewayMigration.Proofs.Gce.Sources
import GatewayMigration.Proofs.Gce.Requests
import GatewayMigration.Proofs.Gce.Decoding
import GatewayMigration.Proofs.Provider.Running
import GatewayMigration.Proofs.Gce.SslPolicies
import GatewayMigration.Proofs.Gce.Irrelevance
import GatewayMigration.Proofs.CommandLine.Outcome
import GatewayMigration.Proofs.CommandLine.ReadingBack
import GatewayMigration.Proofs.Notification
import GatewayMigration.Proofs.Topology.Editing
import GatewayMigration.Proofs.Conversion.ErrorPaths
