import EventCapture.Regex.Pattern
import EventCapture.Scenario.Run
import EventCapture.Settings.Reading
import EventCapture.Sink.Plain
import EventCapture.Startup.Facility
import EventCapture.Character.Category
import EventCapture.Regex.Known
import EventCapture.Regex.Property.Age
import EventCapture.Regex.Property.Binary
import EventCapture.Regex.Property.Break
import EventCapture.Regex.Property
import EventCapture.Json.Numeral
import EventCapture.Proofs.Client
import EventCapture.Proofs.Operations
import EventCapture.Proofs.Passage
import EventCapture.Proofs.SinkCalls
import EventCapture.Proofs.Tables
import EventCapture.Proofs.Lifecycle
import EventCapture.Proofs.Capture
import EventCapture.Proofs.Race
import EventCapture.Proofs.Partition
import EventCapture.Proofs.Arrival
import EventCapture.Proofs.AtRest
import EventCapture.Proofs.Undisturbed
import EventCapture.Proofs.PatternGrammar
import EventCapture.Proofs.Facades
import EventCapture.Proofs.Waiting
import EventCapture.Proofs.Audit
import EventCapture.Proofs.Windows
import EventCapture.Proofs.Receipts
import EventCapture.Proofs.OwnEvents
import EventCapture.Proofs.Punctuality
import EventCapture.Proofs.FieldVisits
import EventCapture.Proofs.AttachedErrors
import EventCapture.Proofs.Delivery
import EventCapture.Proofs.Hierarchy
import EventCapture.Proofs.PatternTexts
import EventCapture.Proofs.PatternSets
import EventCapture.Proofs.Criteria
import EventCapture.Proofs.Dates
import EventCapture.Proofs.Numerals
import EventCapture.Proofs.InstantTexts
import EventCapture.Proofs.JsonTexts
import EventCapture.Proofs.JsonLines
import EventCapture.Proofs.ReportLines
import EventCapture.Proofs.Nearness
import EventCapture.Proofs.Selection
import EventCapture.Proofs.NoErrors
import EventCapture.Proofs.Queries
import EventCapture.Proofs.SideBySide
import EventCapture.Proofs.Openings
import EventCapture.Proofs.Interest
import EventCapture.Proofs.Handles
import EventCapture.Proofs.CauseChains
import EventCapture.Proofs.ReportLimits
import EventCapture.Proofs.CauseChains
import EventCapture.Proofs.ReportLimits
import EventCapture.Proofs.Overrides
import EventCapture.Proofs.Segments
