import AccessLog.FileTree
import AccessLog.Main
import AccessLog.Proofs.Directory
import AccessLog.Proofs.Path
import AccessLog.Proofs.Query.Reading
import AccessLog.Proofs.Ingestion.Recount
import AccessLog.Proofs.Query.Denotation
import AccessLog.Proofs.Archive
import AccessLog.Proofs.Encoding
import AccessLog.Proofs.Ingestion.Interrupt
import AccessLog.Proofs.Ingestion.Verdict
import AccessLog.Proofs.Conservation
import AccessLog.Proofs.EventToken
import AccessLog.Proofs.Ingestion.Limit
import AccessLog.Proofs.RoundTrip
import AccessLog.Proofs.Predicate
import AccessLog.Proofs.Query.Carried
import AccessLog.Proofs.Tally
import AccessLog.Proofs.Tasks
import AccessLog.Proofs.Timestamp.Spelling
import AccessLog.Proofs.Encoding.Cut
import AccessLog.Proofs.Ingestion.Isolation
import AccessLog.Proofs.Ingestion.Diagnosis
import AccessLog.Proofs.Timestamp.Forms
import AccessLog.Proofs.Timestamp.Grammar
import AccessLog.Proofs.EventToken.Recognition
import AccessLog.Proofs.Line.Written
import AccessLog.Proofs.Window
import AccessLog.Proofs.Ingestion.Ending
import AccessLog.Proofs.Reduction
import AccessLog.Proofs.Text.Joined
import AccessLog.Proofs.Line.Fields
import AccessLog.Proofs.Text.LowerCase
import AccessLog.Proofs.Directory.Extension
import AccessLog.Proofs.Ingestion.FieldCount
import AccessLog.Proofs.Command.Dates
import AccessLog.Proofs.Command.Printing
import AccessLog.Proofs.FirstLogin
import AccessLog.Proofs.Command.Listing
