import ChartPortrayal.Configuration
import ChartPortrayal.Display
import ChartPortrayal.Portrayal.Report
import ChartPortrayal.SortedMap.Lookup
import ChartPortrayal.Proofs.Chart.Resolution
import ChartPortrayal.Proofs.Chart.Assignment
import ChartPortrayal.Proofs.Shading
import ChartPortrayal.Proofs.SafetyContour
import ChartPortrayal.Proofs.Splicing
import ChartPortrayal.Proofs.Agreement
import ChartPortrayal.Proofs.Faithful
import ChartPortrayal.Proofs.Store
import ChartPortrayal.Proofs.Display.Request
import ChartPortrayal.Proofs.Display.Coherence
import ChartPortrayal.Proofs.Display.Answers
import ChartPortrayal.Proofs.Chart.Generation
import ChartPortrayal.Proofs.Chart.Settled
import ChartPortrayal.Proofs.Display.Settled
import ChartPortrayal.Proofs.Instruction.Words
import ChartPortrayal.Proofs.Conditional.Sound
import ChartPortrayal.Proofs.Conditional.Written
import ChartPortrayal.Proofs.Failure
import ChartPortrayal.Proofs.Validation
import ChartPortrayal.Proofs.Selection
import ChartPortrayal.Proofs.Loading
import ChartPortrayal.Proofs.Chart.Optimum
import ChartPortrayal.Proofs.Number.Numerals
import ChartPortrayal.Proofs.Number.Whole
import ChartPortrayal.Proofs.Instruction.Names
import ChartPortrayal.Proofs.Instruction.Override
import ChartPortrayal.Proofs.Instruction.Printing
import ChartPortrayal.Proofs.Deepening
import ChartPortrayal.Proofs.Conditional.Naming
import ChartPortrayal.Proofs.Display.Alignment
import ChartPortrayal.Proofs.Display.Ledger
import ChartPortrayal.Proofs.Display.Renumbering
import ChartPortrayal.Proofs.Display.Removal
import ChartPortrayal.Proofs.Json.Text
import ChartPortrayal.Proofs.Json.Reading
import ChartPortrayal.Proofs.Library.Decoding
import ChartPortrayal.Proofs.Library.Reloading
import ChartPortrayal.Proofs.Number.Sum
import ChartPortrayal.Proofs.Overriding
import ChartPortrayal.Proofs.Conditional.Danger
import ChartPortrayal.Proofs.DangerPriority
import ChartPortrayal.Proofs.Conditional.DatumShift
import ChartPortrayal.Proofs.Conditional.SectorArcs
import ChartPortrayal.Proofs.Conditional.Ranks
import ChartPortrayal.Proofs.Instruction.ViewGroup
import ChartPortrayal.Proofs.EffectivePriority
import ChartPortrayal.Proofs.Containment
import ChartPortrayal.Proofs.Display.Unchanged
import ChartPortrayal.Proofs.Display.Sparing
import ChartPortrayal.Proofs.Number.Sign
import ChartPortrayal.Proofs.Matching
import ChartPortrayal.Proofs.Number.Digits
import ChartPortrayal.Proofs.Number.Tenths
import ChartPortrayal.Proofs.Conditional.SoundingDigits
import ChartPortrayal.Proofs.Conditional.ContourLabel
import ChartPortrayal.Proofs.Chart.Insertion
import ChartPortrayal.Proofs.Chart.Malformed
import ChartPortrayal.Proofs.Settings.Writes
import ChartPortrayal.Proofs.Text.Fields
import ChartPortrayal.Proofs.Instruction.Payload
import ChartPortrayal.Proofs.Number.Exact
import ChartPortrayal.Proofs.Label.Conversions
import ChartPortrayal.Proofs.Label.Cutting
import ChartPortrayal.Proofs.Label.Filling
import ChartPortrayal.Proofs.Label.ZeroPadding
import ChartPortrayal.Proofs.Text.Trimming
import ChartPortrayal.Proofs.Instruction.ViewGroupRange
import ChartPortrayal.Proofs.Rule.Encoding
import ChartPortrayal.Proofs.Instruction.Composition
import ChartPortrayal.Proofs.Feature.CodeList
import ChartPortrayal.Proofs.Number.Nearest
import ChartPortrayal.Proofs.Number.Decimals
import ChartPortrayal.Proofs.Instruction.Rereading
