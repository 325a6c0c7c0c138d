import FlatQuery.Cli
import FlatQuery.Main
import FlatQuery.Proofs.Command.Product
import FlatQuery.Proofs.Statement.Groups
import FlatQuery.Proofs.Statement.RoundTrip
import FlatQuery.Proofs.Statement.Blind
import FlatQuery.Proofs.Scan.Backends
import FlatQuery.Proofs.Failure
import FlatQuery.Proofs.Scan.Lifecycle
import FlatQuery.Proofs.Command.Faults
import FlatQuery.Proofs.Query.Building
import FlatQuery.Proofs.Statement.Reordered
import FlatQuery.Proofs.Command.Outcome
import FlatQuery.Proofs.Command.Interchange
import FlatQuery.Proofs.Scan.Resolution
import FlatQuery.Proofs.Command.Consumed
import FlatQuery.Proofs.Command.Stepped
import FlatQuery.Proofs.Reader.Filled
import FlatQuery.Proofs.Statement.Spelled
import FlatQuery.Proofs.Command.Wildcard
import FlatQuery.Proofs.Command.Commuted
import FlatQuery.Proofs.Command.Ordinals
import FlatQuery.Proofs.Chain.Settled
import FlatQuery.Proofs.Odometer.Run
import FlatQuery.Proofs.Scan.Delivery
import FlatQuery.Proofs.Command.Lapses
import FlatQuery.Proofs.Join.Dropped
import FlatQuery.Proofs.Statement.Bracketed
import FlatQuery.Proofs.Statement.Qualified
import FlatQuery.Proofs.Token.Layout
import FlatQuery.Proofs.Statement.Partition
import FlatQuery.Proofs.Scan.Decoded
import FlatQuery.Proofs.Config.Usable
import FlatQuery.Proofs.Config.Loaded
import FlatQuery.Proofs.Statement.Keywords
