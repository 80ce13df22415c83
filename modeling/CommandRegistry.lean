import CommandRegistry.Main
import CommandRegistry.Proofs.WireCompatibility
import CommandRegistry.Proofs.EnvelopeRoundTrip
import CommandRegistry.Proofs.IdAllocation
import CommandRegistry.Proofs.TableRepresentation
import CommandRegistry.Proofs.RestartTransparency
import CommandRegistry.Proofs.VersionBookkeeping
import CommandRegistry.Proofs.AppendOnly
import CommandRegistry.Proofs.Dispatching
import CommandRegistry.Proofs.Tolerance
import CommandRegistry.Proofs.NestedVersions
import CommandRegistry.Proofs.StoreLifecycle
import CommandRegistry.Proofs.MessageFraming
import CommandRegistry.Proofs.VarintForms
import CommandRegistry.Proofs.VarintReading
import CommandRegistry.Proofs.BodyGrammar
import CommandRegistry.Proofs.ShortestMessages
import CommandRegistry.Proofs.BodyWriting
import CommandRegistry.Proofs.Acceptance
import CommandRegistry.Proofs.RecordOrder
import CommandRegistry.Proofs.DenseVersions
import CommandRegistry.Proofs.RecordRoundTrip
import CommandRegistry.Proofs.TypedDispatching
import CommandRegistry.Proofs.RegistrationOutcome
import CommandRegistry.Proofs.SnapshotReading
import CommandRegistry.Proofs.PublishedVersions
import CommandRegistry.Proofs.DemoRuns
import CommandRegistry.Proofs.SchemaDefinitions
import CommandRegistry.Proofs.SnapshotDefects
import CommandRegistry.Proofs.NamespacedCommands
import CommandRegistry.Proofs.GuardedReading
import CommandRegistry.Proofs.GuardedCalls
