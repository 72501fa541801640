import DiagnosticMarkers.Main
import DiagnosticMarkers.Proofs.Group.Blocks
import DiagnosticMarkers.Proofs.Group.Operations
import DiagnosticMarkers.Proofs.Document.Lines
import DiagnosticMarkers.Proofs.Analysis.Accounting
import DiagnosticMarkers.Proofs.Analysis.Session
import DiagnosticMarkers.Proofs.Analysis.Noise
import DiagnosticMarkers.Proofs.Analysis.Concatenation
import DiagnosticMarkers.Proofs.CommandLine.ExitStatus
import DiagnosticMarkers.Proofs.Suppression.Calls
import DiagnosticMarkers.Proofs.Analysis.Forms
import DiagnosticMarkers.Proofs.Diagnostic.Printing
import DiagnosticMarkers.Proofs.Suppression.Comment
import DiagnosticMarkers.Proofs.Path.Recognition
import DiagnosticMarkers.Proofs.Path.Resolution
import DiagnosticMarkers.Proofs.Settings.Tokens
import DiagnosticMarkers.Proofs.Path.Caseless
import DiagnosticMarkers.Proofs.Group.Pattern
import DiagnosticMarkers.Proofs.Analysis.Records
import DiagnosticMarkers.Proofs.Settings.Meaning
import DiagnosticMarkers.Proofs.Table
import DiagnosticMarkers.Proofs.Settings.Spelling
import DiagnosticMarkers.Proofs.Settings.Writing
import DiagnosticMarkers.Proofs.FileTree
import DiagnosticMarkers.Proofs.Settings.Nearest
