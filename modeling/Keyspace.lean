import Keyspace.Text.Split
import Keyspace.Text.Printable
import Keyspace.Text.Quoted
import Keyspace.Text.Percent
import Keyspace.Text.Numeral
import Keyspace.Text.Decimal
import Keyspace.Number.Binary64
import Keyspace.Number.Shortest
import Keyspace.Number.Exact
import Keyspace.Address.Basic
import Keyspace.Address.Operand
import Keyspace.Path.Basic
import Keyspace.Path.Combination
import Keyspace.Path.Operand
import Keyspace.Path.WellFormed
import Keyspace.FileSystem.Basic
import Keyspace.FileSystem.Operand
import Keyspace.Location
import Keyspace.Misuse
import Keyspace.PathError.Basic
import Keyspace.PathError.Arguments
import Keyspace.Fault
import Keyspace.Value.Basic
import Keyspace.Value.Written
import Keyspace.Value.Equality
import Keyspace.Value.Order
import Keyspace.Value.Hash
import Keyspace.Value.Record
import Keyspace.Value.Quotient
import Keyspace.Value.Tagged
import Keyspace.Report
import Keyspace.Sorting.Search
import Keyspace.Sorting.Run
import Keyspace.Sorting.Merge
import Keyspace.Sorting.Basic
import Keyspace.Collection
import Keyspace.Registry
import Keyspace.Session.Command
import Keyspace.Session.Basic
import Keyspace.Session.Run
import Keyspace.Proofs.Except
import Keyspace.Proofs.Sorting.Permutation
import Keyspace.Proofs.Sorting.Search
import Keyspace.Proofs.Sorting.Ascending
import Keyspace.Proofs.Sorting.Merging
import Keyspace.Proofs.Value.Paths
import Keyspace.Proofs.Value.WellFormed
import Keyspace.Proofs.Path.FileSystem
import Keyspace.Proofs.Path.Operand
import Keyspace.Proofs.Session.Invariant
import Keyspace.Proofs.Session.Reachable
import Keyspace.Proofs.Address.Text
import Keyspace.Proofs.Path.Parsing
import Keyspace.Proofs.Address.Uri
import Keyspace.Proofs.Session.Written
import Keyspace.Proofs.Path.Resolution
import Keyspace.Proofs.Path.Containment
import Keyspace.Proofs.Address.Order
import Keyspace.Proofs.Path.Sorting
import Keyspace.Proofs.Session.Containment
import Keyspace.Proofs.Session.Ordered
import Keyspace.Proofs.Session.Quiet
import Keyspace.Proofs.Session.Effect
import Keyspace.Proofs.Session.LifeCycle
import Keyspace.Proofs.Text.Joined
import Keyspace.Proofs.Session.Canonical
import Keyspace.Proofs.Path.Moved
import Keyspace.Proofs.Session.TextOperand
import Keyspace.Proofs.Value.Current
import Keyspace.Proofs.Session.Provenance
import Keyspace.Proofs.Value.Detached
import Keyspace.Proofs.Path.Detached
import Keyspace.Proofs.Session.Parallel
import Keyspace.Proofs.Session.Counterpart
import Keyspace.Proofs.Session.Blindness
import Keyspace.Proofs.Address.Subtree
import Keyspace.Proofs.Session.Subtree
import Keyspace.Proofs.Path.Relativization
import Keyspace.Proofs.Path.Parting
import Keyspace.Proofs.Path.Failing
import Keyspace.Proofs.Session.Failing
import Keyspace.Proofs.Session.Rerooting
import Keyspace.Proofs.Address.Joined
import Keyspace.Proofs.FileSystem.Joining
import Keyspace.Proofs.Address.Built
import Keyspace.Proofs.Address.Spelling
import Keyspace.Proofs.Session.Building
import Keyspace.Proofs.FileSystem.Factories
import Keyspace.Proofs.Path.Siblings
import Keyspace.Proofs.Session.Endings
import Keyspace.Proofs.Path.LastName
import Keyspace.Proofs.Session.Ancestors
import Keyspace.Proofs.Path.Components
import Keyspace.Proofs.Session.Locations
import Keyspace.Proofs.Session.Monotone
import Keyspace.Proofs.Text.Delimited
import Keyspace.Proofs.Text.Unquoting
import Keyspace.Proofs.Value.Literal
import Keyspace.Proofs.PathError.Rebuilding
import Keyspace.Proofs.Session.Literals
import Keyspace.Proofs.Text.Integers
import Keyspace.Proofs.Text.Printable
import Keyspace.Proofs.Value.Writable
import Keyspace.Proofs.Value.Printable
import Keyspace.Proofs.Path.Wording
import Keyspace.Proofs.Session.Presentable
import Keyspace.Proofs.Value.Entries
import Keyspace.Proofs.Value.Equality
import Keyspace.Proofs.FileSystem.Equality
