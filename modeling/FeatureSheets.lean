import FeatureSheets.Cli.Session
import FeatureSheets.Csv.Reader
import FeatureSheets.Feature.Draft
import FeatureSheets.Main
import FeatureSheets.Proofs.Feature.Examples
import FeatureSheets.Proofs.Feature.Locality
import FeatureSheets.Proofs.Sheet.StepRows
import FeatureSheets.Text.Lemmas
import FeatureSheets.Workbook
import FeatureSheets.Proofs.Sheet.TestInput
import FeatureSheets.Proofs.Sheet.Name
import FeatureSheets.Proofs.Path.Join
import FeatureSheets.Proofs.Path.FileName
import FeatureSheets.Proofs.Discovery.Found
import FeatureSheets.Proofs.Discovery.ExportDir
import FeatureSheets.Proofs.Csv.RoundTrip
import FeatureSheets.Proofs.Text.Utf8
import FeatureSheets.Proofs.Json.RoundTrip
import FeatureSheets.Proofs.Json.Forms
import FeatureSheets.Proofs.Export.FileName
import FeatureSheets.Proofs.FileTree.Resolve
import FeatureSheets.Proofs.FileTree.Change
import FeatureSheets.Proofs.FileTree.Written
import FeatureSheets.Proofs.Export.Write
import FeatureSheets.Proofs.Feature.Draft
import FeatureSheets.Proofs.Feature.Layout
import FeatureSheets.Proofs.Sheet.Characters
import FeatureSheets.Proofs.Workbook
import FeatureSheets.Proofs.Time.Timestamp
import FeatureSheets.Proofs.Json.Manifest
import FeatureSheets.Proofs.FileTree.Directories
import FeatureSheets.Proofs.Export.History
import FeatureSheets.Proofs.Feature.Bytes
import FeatureSheets.Proofs.Path.Components
import FeatureSheets.Proofs.FileTree.Reach
import FeatureSheets.Proofs.Kind
import FeatureSheets.Proofs.Steps
import FeatureSheets.Proofs.Export.Footprint
import FeatureSheets.Proofs.Export.Moment
import FeatureSheets.Proofs.Batch.Account
import FeatureSheets.Proofs.FileTree.Augment
import FeatureSheets.Proofs.FileTree.Open
import FeatureSheets.Proofs.Export.Chain
import FeatureSheets.Proofs.Repeat
import FeatureSheets.Proofs.Discovery.Rescan
import FeatureSheets.Proofs.Discovery.Order
import FeatureSheets.Proofs.Discovery.Walk
import FeatureSheets.Proofs.Discovery.Complete
import FeatureSheets.Proofs.Batch.Again
import FeatureSheets.Proofs.Sheet.Shape
import FeatureSheets.Proofs.Sheet.Expectations
import FeatureSheets.Proofs.Json.Stored
import FeatureSheets.Proofs.Feature.Capture
import FeatureSheets.Proofs.Discovery.Plan
import FeatureSheets.Proofs.Sheet.NameLimit
import FeatureSheets.Proofs.Sheet.Stability
import FeatureSheets.Proofs.Export.Choices
import FeatureSheets.Proofs.Export.Refusal
import FeatureSheets.Proofs.Text.Sigma
import FeatureSheets.Proofs.Export.LetterCase
import FeatureSheets.Proofs.Feature.TableRow
import FeatureSheets.Proofs.Feature.Scanner
