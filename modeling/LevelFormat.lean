import LevelFormat.Object.Edit
import LevelFormat.Object.Stream
import LevelFormat.Proofs.Object.Form
import LevelFormat.Save.Progress
import LevelFormat.Save.Recording
import LevelFormat.Save.VersionDocument
import LevelFormat.Proofs.Object.Segments
import LevelFormat.Proofs.Number.Printing
import LevelFormat.Proofs.Object.Acceptance
import LevelFormat.Proofs.Object.Reencoding
import LevelFormat.Proofs.Save.ItemReading
import LevelFormat.Proofs.Save.RecordingRoundTrip
import LevelFormat.Proofs.Wire.Canonical
import LevelFormat.Proofs.Object.Canonical
import LevelFormat.Proofs.Save.Rescanning
import LevelFormat.Proofs.Object.Calls
import LevelFormat.Proofs.Object.Concatenation
import LevelFormat.Proofs.Object.Truncation
import LevelFormat.Proofs.Object.Loss
import LevelFormat.Proofs.Wire.Locality
import LevelFormat.Proofs.Save.GameNumbering
import LevelFormat.Proofs.Save.Lookahead
import LevelFormat.Proofs.Save.Spans
import LevelFormat.Proofs.Save.Unambiguous
import LevelFormat.Proofs.Object.Outcome
import LevelFormat.Proofs.Wire.Script
import LevelFormat.Proofs.Wire.Candor
import LevelFormat.Proofs.Wire.FailedReads
import LevelFormat.Proofs.Operations
import LevelFormat.Proofs.Save.Grammar
import LevelFormat.Proofs.Save.GameOrder
import LevelFormat.Proofs.Save.WholeTexts
import LevelFormat.Proofs.Save.Scattered
import LevelFormat.Proofs.Number.Numerals
import LevelFormat.Proofs.Save.VersionTexts
import LevelFormat.Proofs.Save.ProgressTexts
import LevelFormat.Proofs.Wire.CountedBytes
import LevelFormat.Proofs.Save.ProgressBytes
import LevelFormat.Proofs.Json.Printed
import LevelFormat.Proofs.Save.VersionDocuments
import LevelFormat.Proofs.Save.VersionSources
import LevelFormat.Proofs.Bits.Replacement
import LevelFormat.Proofs.Bits.Splitting
import LevelFormat.Proofs.Bits.FlaggedWords
import LevelFormat.Proofs.Object.Edits
import LevelFormat.Proofs.Object.Sharing
import LevelFormat.Proofs.Object.Capabilities
import LevelFormat.Proofs.Text.Conformance
import LevelFormat.Proofs.Object.Texts
import LevelFormat.Proofs.Object.Texts
