import Multipart.Decoder.Query
import Multipart.Settings.Load
import Multipart.Proofs.Decoder.Extraction
import Multipart.Proofs.Decoder.Run
import Multipart.Proofs.Decoder.Laziness
import Multipart.Proofs.Cursor.Script
import Multipart.Proofs.Cursor.Bisimulation
import Multipart.Proofs.Scan.Bisimulation
import Multipart.Proofs.Header.Lines
import Multipart.Proofs.Decoder.Seams
import Multipart.Proofs.Delimiter.Shifts
import Multipart.Proofs.Delimiter.Safety
import Multipart.Proofs.Delimiter.Table
import Multipart.Proofs.Body
import Multipart.Proofs.Cursor.Gather
import Multipart.Proofs.Scan.Search
import Multipart.Proofs.Decoder.Slices
import Multipart.Proofs.Header.Fields
import Multipart.Proofs.Cursor.Faultless
import Multipart.Proofs.Scan.Faultless
import Multipart.Proofs.Message.Basic
import Multipart.Proofs.Message.Reading
import Multipart.Proofs.Decoder.Filing
import Multipart.Proofs.Decoder.Completion
import Multipart.Proofs.Message.RoundTrip
import Multipart.Proofs.Decoder.Failure
import Multipart.Proofs.Decoder.Classification
import Multipart.Proofs.Cursor.Plain
import Multipart.Proofs.Cursor.Refinement
import Multipart.Proofs.Cursor.Memory
import Multipart.Proofs.Scan.Memory
import Multipart.Proofs.Decoder.Invariant
import Multipart.Proofs.Decoder.Memory
import Multipart.Proofs.Cursor.Pull
import Multipart.Proofs.Cursor.Offer
import Multipart.Proofs.Decoder.Replacement
import Multipart.Proofs.Scan.Line
import Multipart.Proofs.Decoder.Progress
import Multipart.Proofs.Decoder.Following
import Multipart.Proofs.Header.Limit
import Multipart.Proofs.Scan.Limit
import Multipart.Proofs.Decoder.Limits
import Multipart.Proofs.Decoder.Errors
import Multipart.Proofs.Decoder.Leniency
import Multipart.Proofs.Cursor.Agreement
import Multipart.Proofs.Decoder.Streaming
import Multipart.Proofs.Decoder.Log
import Multipart.Proofs.Scan.Grammar
import Multipart.Proofs.Scan.Closing
import Multipart.Proofs.Scan.Windows
import Multipart.Proofs.Scan.Pieces
import Multipart.Proofs.Scan.Naive
import Multipart.Proofs.Cursor.Replay
import Multipart.Proofs.Scan.Recovery
import Multipart.Proofs.Decoder.Size
import Multipart.Proofs.Header.Trimming
import Multipart.Proofs.Header.Folded
import Multipart.Proofs.Header.Fallback
import Multipart.Proofs.Header.Omission
import Multipart.Proofs.Header.Lookup
import Multipart.Proofs.ContentType.Lookup
import Multipart.Proofs.ContentType.Folding
import Multipart.Proofs.ContentType.Rounds
import Multipart.Proofs.Cursor.Registers
import Multipart.Proofs.Cursor.Mirror
import Multipart.Proofs.Cursor.Arithmetic
