import PropertyBinding.Config
import PropertyBinding.Script.Parser
import PropertyBinding.Script.Operator
import PropertyBinding.Script.Exception
import PropertyBinding.Script.Scope
import PropertyBinding.Value.Identity
import PropertyBinding.Notification.Notifier
import PropertyBinding.Notification.ReadSet
import PropertyBinding.Engine.Inspection
import PropertyBinding.Engine.Run
import PropertyBinding.Proofs.Capture
import PropertyBinding.Proofs.Kinship
import PropertyBinding.Proofs.Returning
import PropertyBinding.Proofs.Propagation
import PropertyBinding.Proofs.Renaming
import PropertyBinding.Proofs.Tracking
import PropertyBinding.Proofs.Shifting
import PropertyBinding.Proofs.DependencyCapture
import PropertyBinding.Proofs.ArrowScope
import PropertyBinding.Proofs.Ensuring
import PropertyBinding.Proofs.Keeping
import PropertyBinding.Proofs.Programs
import PropertyBinding.Proofs.FullKeeping
import PropertyBinding.Proofs.Onward
import PropertyBinding.Proofs.Orderly
import PropertyBinding.Proofs.OrderlyAccess
import PropertyBinding.Proofs.OrderlyUpdate
import PropertyBinding.Proofs.ActiveWriter
import PropertyBinding.Proofs.Destruction
import PropertyBinding.Proofs.Tracing
import PropertyBinding.Proofs.Stretches
import PropertyBinding.Proofs.UpdateCourse
import PropertyBinding.Proofs.Silence
import PropertyBinding.Proofs.Office
import PropertyBinding.Proofs.Vetting
import PropertyBinding.Proofs.PlainNumber
import PropertyBinding.Proofs.PlainValue
import PropertyBinding.Proofs.StoredForm
import PropertyBinding.Proofs.Storing
import PropertyBinding.Proofs.WellFormed
import PropertyBinding.Proofs.Wiring
import PropertyBinding.Proofs.Settling
import PropertyBinding.Proofs.Resting
import PropertyBinding.Proofs.Spreading
import PropertyBinding.Proofs.Resettling
import PropertyBinding.Proofs.Remaining
import PropertyBinding.Proofs.Consistency
import PropertyBinding.Proofs.AliasTransparency
import PropertyBinding.Proofs.Moves
import PropertyBinding.Proofs.Telling
import PropertyBinding.Proofs.Furnishing
import PropertyBinding.Proofs.Customs
import PropertyBinding.Proofs.Conduct
import PropertyBinding.Proofs.Tellable
import PropertyBinding.Proofs.Framing
import PropertyBinding.Proofs.Attention
import PropertyBinding.Proofs.Generations
import PropertyBinding.Proofs.Holding
import PropertyBinding.Proofs.Duality
import PropertyBinding.Proofs.Assigning
import PropertyBinding.Proofs.Depositing
import PropertyBinding.Proofs.Interception
import PropertyBinding.Proofs.Refusal
import PropertyBinding.Proofs.Pointing
import PropertyBinding.Proofs.Severally
import PropertyBinding.Proofs.FastPath
import PropertyBinding.Proofs.Reflecting
import PropertyBinding.Proofs.Narrowing
import PropertyBinding.Proofs.ScriptForm
import PropertyBinding.Proofs.SilentWrite
import PropertyBinding.Proofs.LastGood
import PropertyBinding.Proofs.Typing
import PropertyBinding.Proofs.TypedRuns
import PropertyBinding.Proofs.WholeNumber
import PropertyBinding.Proofs.WordArithmetic
import PropertyBinding.Proofs.Grammar
import PropertyBinding.Proofs.ParserSoundness
import PropertyBinding.Proofs.Unambiguity
import PropertyBinding.Proofs.ParserCompleteness
import PropertyBinding.Proofs.TokenPlaces
import PropertyBinding.Proofs.SourcePlaces
import PropertyBinding.Proofs.SlotTable
import PropertyBinding.Proofs.ObjectNames
import PropertyBinding.Proofs.Shortcuts
import PropertyBinding.Proofs.Truth
import PropertyBinding.Proofs.Selecting
import PropertyBinding.Proofs.Rounding
import PropertyBinding.Proofs.ExactValue
import PropertyBinding.Proofs.NumeralText
import PropertyBinding.Proofs.DecimalReading
import PropertyBinding.Proofs.ShortestDecimal
import PropertyBinding.Proofs.NumberText
import PropertyBinding.Proofs.WordOfDouble
import PropertyBinding.Proofs.Converting
import PropertyBinding.Proofs.Containers
import PropertyBinding.Proofs.AliasChains
import PropertyBinding.Proofs.ReadingBack
import PropertyBinding.Proofs.Lineage
import PropertyBinding.Proofs.Hierarchy
import PropertyBinding.Proofs.EvidenceText
import PropertyBinding.Proofs.Chronicle
import PropertyBinding.Proofs.Practice
import PropertyBinding.Proofs.Conservation
import PropertyBinding.Proofs.JsonText
import PropertyBinding.Proofs.EvidenceReading
import PropertyBinding.Proofs.Forwarding
import PropertyBinding.Proofs.Dealings
import PropertyBinding.Proofs.Trails
import PropertyBinding.Proofs.Notices
import PropertyBinding.Proofs.Unmissed
import PropertyBinding.Proofs.Handovers
import PropertyBinding.Proofs.RetiredOnce
import PropertyBinding.Proofs.Updates
import PropertyBinding.Proofs.Paces
import PropertyBinding.Proofs.FieldBindings
import PropertyBinding.Proofs.DisabledBindings
