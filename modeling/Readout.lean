import Readout.Session.Step
import Readout.Proofs.Extraction.Captures
import Readout.Proofs.Extraction.FillUp
import Readout.Proofs.Extraction.Safety
import Readout.Proofs.Extraction.Shape
import Readout.Proofs.Index.Advertised
import Readout.Proofs.Index.Selection
import Readout.Proofs.Session.Cache
import Readout.Proofs.Session.Transparency
import Readout.Proofs.Template.Anchoring
import Readout.Proofs.Text.Lines
import Readout.Proofs.Index.RoundTrip
import Readout.Proofs.Session.Lifecycle
import Readout.Proofs.Template.Validity
import Readout.Proofs.Template.Printing
import Readout.Proofs.Template.RoundTrip
import Readout.Proofs.Index.Appending
import Readout.Proofs.Extraction.Lines
import Readout.Proofs.Session.Agreement
import Readout.Proofs.Template.Grouping
import Readout.Proofs.Extraction.Stages
import Readout.Proofs.Extraction.Stopping
import Readout.Proofs.Extraction.Rejection
import Readout.Proofs.Extraction.Noise
import Readout.Proofs.Template.Layout
import Readout.Proofs.Template.Description
import Readout.Proofs.Template.Declaration
import Readout.Proofs.Template.Arrangement
import Readout.Proofs.Extraction.Arrangement
import Readout.Proofs.Extraction.LineRecords
import Readout.Proofs.Index.Rows
import Readout.Proofs.Command.Widening
import Readout.Proofs.Template.Grammar
import Readout.Proofs.Command.Normal
import Readout.Proofs.Session.Introspection
import Readout.Proofs.Template.Relayout
import Readout.Proofs.Template.Message
import Readout.Proofs.Template.Substitution
import Readout.Proofs.Session.Report
import Readout.Proofs.Session.Sharing
