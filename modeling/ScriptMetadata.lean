import ScriptMetadata.Container
import ScriptMetadata.Extraction
import ScriptMetadata.Fixture
import ScriptMetadata.Extractor
import ScriptMetadata.Proofs.Acceptance
import ScriptMetadata.Proofs.RoundTrip
import ScriptMetadata.Proofs.ExtractorRuns
import ScriptMetadata.Proofs.FaultFreedom
import ScriptMetadata.Proofs.DamageDetection
import ScriptMetadata.Proofs.FixtureReading
import ScriptMetadata.Proofs.ReportReading
import ScriptMetadata.Proofs.MetadataListing
import ScriptMetadata.Proofs.StoreHistory
import ScriptMetadata.Proofs.LoadedSize
import ScriptMetadata.Proofs.HeaderDamage
import ScriptMetadata.Proofs.LoadDefects
import ScriptMetadata.Proofs.ExtractionDefects
import ScriptMetadata.Proofs.AdvisoryIndependence
import ScriptMetadata.Proofs.Resealing
import ScriptMetadata.Proofs.LiveBytes
import ScriptMetadata.Proofs.EmissionLayout
import ScriptMetadata.Proofs.StringInterning
import ScriptMetadata.Proofs.FixtureNames
import ScriptMetadata.Report
import ScriptMetadata.Proofs.ExtractionLog
import ScriptMetadata.Proofs.ModuleAgreement
import ScriptMetadata.Proofs.IndexLabels
import ScriptMetadata.Proofs.ReportCharacters
import ScriptMetadata.Proofs.ReportLines
import ScriptMetadata.Proofs.ControlSequences
import ScriptMetadata.Proofs.ReportColors
import ScriptMetadata.Proofs.SignatureDescription
import ScriptMetadata.Container.Layout
import ScriptMetadata.Proofs.SectionOffsets
import ScriptMetadata.Container.Header
import ScriptMetadata.Proofs.HeaderBijection
