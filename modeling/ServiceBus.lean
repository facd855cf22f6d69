import ServiceBus.Bus.Probe
import ServiceBus.Greeter.Server
import ServiceBus.Main
import ServiceBus.Proofs.Cancellation
import ServiceBus.Proofs.World.Overlap
import ServiceBus.Proofs.World.Rest
import ServiceBus.Proofs.World.Readers
import ServiceBus.Proofs.World.Manned
import ServiceBus.Subject
import ServiceBus.Text.Case
import ServiceBus.Proofs.Pool.Bounds
import ServiceBus.Proofs.Pool.Custody
import ServiceBus.Proofs.Pool.Jobs
import ServiceBus.Proofs.Bus.Chores
import ServiceBus.Proofs.Plugin.Failures
import ServiceBus.Proofs.World.Chores
import ServiceBus.Proofs.Descriptor.Conversion
import ServiceBus.Proofs.Plugin.Batch
import ServiceBus.Proofs.Name.Paths
import ServiceBus.Proofs.Descriptor.Index
import ServiceBus.Proofs.Adaptor.Embedded
import ServiceBus.Proofs.Bus.Buffers
import ServiceBus.Proofs.World.Stock
import ServiceBus.Proofs.World.Whereabouts
import ServiceBus.Proofs.World.Course
import ServiceBus.Proofs.World.Way
import ServiceBus.Proofs.World.Arrivals
import ServiceBus.Proofs.World.Crew
import ServiceBus.Proofs.World.Idle
import ServiceBus.Proofs.World.Drain
import ServiceBus.Proofs.World.Agreement
import ServiceBus.Proofs.Schema.Imports
import ServiceBus.Proofs.Schema.WrittenPaths
import ServiceBus.Proofs.Bus.Run
import ServiceBus.Proofs.Bus.Rotation
import ServiceBus.Proofs.Bus.Delivery
import ServiceBus.Proofs.Text.LetterCase
import ServiceBus.Proofs.Subject
import ServiceBus.Proofs.Adaptor.Endpoints
import ServiceBus.Proofs.World.Holders
import ServiceBus.Proofs.World.Correspondence
import ServiceBus.Proofs.Wire.Fields
import ServiceBus.Proofs.World.Kept
import ServiceBus.Proofs.Greeter.Saved
import ServiceBus.Proofs.Replies
import ServiceBus.Proofs.Schema.ImportOrder
import ServiceBus.Proofs.Plugin.Descriptors
import ServiceBus.Proofs.Wire.Scalars
import ServiceBus.Proofs.Greeter.RoundTrip
import ServiceBus.Proofs.World.Flow
import ServiceBus.Proofs.World.Traffic
import ServiceBus.Proofs.World.Order
import ServiceBus.Proofs.World.Serial
import ServiceBus.Proofs.Settings.Packages
import ServiceBus.Proofs.Text.Dictionaries
import ServiceBus.Proofs.Adaptor.Rendering
import ServiceBus.Proofs.Adaptor.Completeness
import ServiceBus.Proofs.Adaptor.Division
import ServiceBus.Proofs.Adaptor.Substitution
import ServiceBus.Proofs.Bus.Acts
import ServiceBus.Proofs.World.Errand
import ServiceBus.Proofs.World.Settled
import ServiceBus.Proofs.Adaptor.Comments
import ServiceBus.Proofs.Descriptor.Declared
import ServiceBus.Proofs.Deadlines
import ServiceBus.Proofs.World.Bounded
import ServiceBus.Proofs.Schema.Places
import ServiceBus.Proofs.Adaptor.Functions
import ServiceBus.Proofs.Adaptor.Writing
import ServiceBus.Proofs.Settings.Parameters
import ServiceBus.Proofs.Name.Forms
import ServiceBus.Proofs.Schema.LegalPaths
import ServiceBus.Proofs.Schema.Identifiers
