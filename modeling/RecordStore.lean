import RecordStore.Fault.Raised
import RecordStore.Session.Memory
import RecordStore.Session.Pool
import RecordStore.Task.Holders
import RecordStore.Time.Reading
import RecordStore.Proofs.Number.Measure
import RecordStore.Proofs.Value.Scalar
import RecordStore.Proofs.Value.Conversion
import RecordStore.Proofs.Sql.Condition
import RecordStore.Proofs.Sql.Token
import RecordStore.Proofs.Sql.Reading
import RecordStore.Proofs.Sql.Predicate
import RecordStore.Proofs.Filter.Typing
import RecordStore.Proofs.Sql.Pattern
import RecordStore.Proofs.Filter.Agreement
import RecordStore.Proofs.Filter.Preservation
import RecordStore.Proofs.Query.Order
import RecordStore.Proofs.Sql.Select
import RecordStore.Proofs.Sql.Statement
import RecordStore.Proofs.Sql.Calls
import RecordStore.Proofs.Sql.Independence
import RecordStore.Proofs.Query.Agreement
import RecordStore.Proofs.Task.Machine
import RecordStore.Proofs.Task.Waiting
import RecordStore.Proofs.Task.Guard
import RecordStore.Proofs.Task.Exclusion
import RecordStore.Proofs.Memory.Client
import RecordStore.Proofs.Memory.Turn
import RecordStore.Proofs.Memory.Serial
import RecordStore.Proofs.Memory.Run
import RecordStore.Proofs.Memory.Kept
import RecordStore.Proofs.Memory.Blind
import RecordStore.Proofs.Memory.Isolation
import RecordStore.Proofs.Memory.Scoping
import RecordStore.Proofs.Memory.Atomicity
import RecordStore.Proofs.Memory.Hooks
import RecordStore.Proofs.Filter.Faults
import RecordStore.Proofs.Memory.Keys
import RecordStore.Proofs.Memory.Keyed
import RecordStore.Proofs.Memory.Uniqueness
import RecordStore.Proofs.Sql.Command
import RecordStore.Proofs.Sql.Write
import RecordStore.Proofs.Mapping.Shape
import RecordStore.Proofs.Query.Writes
import RecordStore.Proofs.Task.Prompt
import RecordStore.Proofs.Pool.Statements
import RecordStore.Proofs.Pool.Discipline
import RecordStore.Proofs.Pool.Consistency
import RecordStore.Proofs.Memory.Lists
import RecordStore.Proofs.Mapping.Storage
import RecordStore.Proofs.Memory.Lookups
import RecordStore.Proofs.Memory.Caller
import RecordStore.Proofs.Memory.Exclusivity
import RecordStore.Proofs.Memory.Courtesy
import RecordStore.Proofs.Memory.Ownership
import RecordStore.Proofs.Memory.Interruption
import RecordStore.Proofs.Pool.Ended
import RecordStore.Proofs.Pool.Steps
import RecordStore.Proofs.Pool.Translation
import RecordStore.Proofs.Memory.Conversion
import RecordStore.Proofs.Task.Lockstep
import RecordStore.Proofs.Memory.Likeness
import RecordStore.Proofs.Memory.Laziness
import RecordStore.Proofs.Memory.Batch
import RecordStore.Proofs.Memory.Joining
import RecordStore.Proofs.Sql.Escaping
import RecordStore.Proofs.Query.Slicing
import RecordStore.Proofs.Sql.Supplies
import RecordStore.Proofs.Sql.Alignment
import RecordStore.Proofs.Filter.Rewriting
import RecordStore.Proofs.Memory.Idempotence
import RecordStore.Proofs.Text.Percent
import RecordStore.Proofs.Config.Authority
import RecordStore.Proofs.Config.RoundTrip
import RecordStore.Proofs.Sql.Quoting
import RecordStore.Proofs.Sql.Composition
import RecordStore.Proofs.Config.Rebuilding
import RecordStore.Proofs.Record.Names
import RecordStore.Proofs.Filter.Leaves
import RecordStore.Proofs.Pool.Opening
import RecordStore.Proofs.Pool.Connecting
import RecordStore.Proofs.Value.Order
import RecordStore.Proofs.Filter.Fields
import RecordStore.Proofs.Memory.Alteration
import RecordStore.Proofs.Memory.Numbering
import RecordStore.Proofs.Memory.Counter
