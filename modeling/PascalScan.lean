import PascalScan.Token
import PascalScan.Diagnostic
import PascalScan.Record
import PascalScan.Lexeme
import PascalScan.Tape
import PascalScan.Scanner
import PascalScan.Text.Blank
import PascalScan.Text.LineEnd
import PascalScan.Text.Uppercase
import PascalScan.Text.Quoted
import PascalScan.Text.Utf8
import PascalScan.Logging.Registry
import PascalScan.Layout
import PascalScan.Json.Writer
import PascalScan.Json.Reader
import PascalScan.Message
import PascalScan.TokenLookup
import PascalScan.CommandLine.Command
import PascalScan.Service.Gateway
import PascalScan.Main
import PascalScan.Proofs.Cut
import PascalScan.Proofs.Records
import PascalScan.Proofs.MaximalMunch
import PascalScan.Proofs.Concatenation
import PascalScan.Proofs.Rescan
import PascalScan.Proofs.RecordFile
import PascalScan.Proofs.CutShort
import PascalScan.Proofs.DiagnosticCount
import PascalScan.Proofs.ScannerRun
import PascalScan.Proofs.Transport
import PascalScan.Proofs.Pipeline
import PascalScan.Proofs.LineEnds
import PascalScan.Proofs.FileAccess
import PascalScan.Proofs.Directories
import PascalScan.Proofs.FileRun
import PascalScan.Proofs.FailedRun
import PascalScan.Proofs.Checking
import PascalScan.Proofs.Forwarding
import PascalScan.Proofs.Rebuilding
import PascalScan.Proofs.FinishedRun
import PascalScan.Proofs.Recovery
import PascalScan.Proofs.Trimming
import PascalScan.Proofs.Replies
import PascalScan.Proofs.LetterCase
import PascalScan.Proofs.Lineage
import PascalScan.Proofs.LoggerRun
import PascalScan.Proofs.TapeRun
