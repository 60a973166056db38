import WritePolicy.Main
import WritePolicy.Proofs.NumberOrder
import WritePolicy.Proofs.Static
import WritePolicy.Proofs.Content
import WritePolicy.Proofs.Trace
import WritePolicy.Proofs.Conformance
import WritePolicy.Proofs.Walk
import WritePolicy.Proofs.Loading
import WritePolicy.Proofs.Decision
import WritePolicy.Proofs.DecisionTable
import WritePolicy.Proofs.History
import WritePolicy.Proofs.Immutability
import WritePolicy.Proofs.Constancy
import WritePolicy.Proofs.Robustness
import WritePolicy.Proofs.Lifecycle
import WritePolicy.Proofs.Alike
import WritePolicy.Proofs.Agreement
import WritePolicy.Proofs.DocumentContent
import WritePolicy.Proofs.Representation
import WritePolicy.Proofs.Relocation
import WritePolicy.Proofs.Ruling
import WritePolicy.Proofs.Writers
import WritePolicy.Proofs.Resaving
import WritePolicy.Proofs.Composition
import WritePolicy.Proofs.PatternSearch
import WritePolicy.Proofs.PatternTokens
import WritePolicy.Proofs.PatternClasses
import WritePolicy.Proofs.PatternAnchors
import WritePolicy.Proofs.DeclarationOrder
import WritePolicy.Proofs.RejectionReport
import WritePolicy.Proofs.Relaxation
import WritePolicy.Proofs.RelaxedWalk
import WritePolicy.Proofs.ComputedSlots
import WritePolicy.Proofs.ComputationOrder
import WritePolicy.Proofs.StatedFields
import WritePolicy.Proofs.StatedValidators
import WritePolicy.Proofs.YamlScanning
import WritePolicy.Proofs.YamlNodes
import WritePolicy.Proofs.FaithfulLoading
import WritePolicy.Proofs.Equality
import WritePolicy.Proofs.RangeOrder
import WritePolicy.Proofs.References
import WritePolicy.Proofs.AttachmentPolicy
import WritePolicy.Proofs.TextBytes
import WritePolicy.Proofs.TemporalTexts
import WritePolicy.Proofs.TemporalReading
import WritePolicy.Proofs.CalendarDays
import WritePolicy.Proofs.TemporalGrammar
import WritePolicy.Proofs.DatePrinting
import WritePolicy.Proofs.Instants
import WritePolicy.Proofs.StrictReading
import WritePolicy.Proofs.FaultFreedom
import WritePolicy.Proofs.OrderedEntries
import WritePolicy.Proofs.Channels
import WritePolicy.Proofs.JsonTokens
import WritePolicy.Proofs.JsonBuilder
import WritePolicy.Proofs.Merging
import WritePolicy.Proofs.Printing
import WritePolicy.Proofs.Arguments
import WritePolicy.Proofs.Checking
