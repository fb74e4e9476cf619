import PropTrace.Discovery
import PropTrace.Json.Printer
import PropTrace.Proofs.Arena
import PropTrace.Proofs.Arrivals
import PropTrace.Proofs.Origins
import PropTrace.Proofs.Rendering
import PropTrace.Proofs.Building
import PropTrace.Proofs.Walk
import PropTrace.Proofs.Reports
import PropTrace.Proofs.Phrases
import PropTrace.Proofs.Attributes
import PropTrace.Proofs.Writes
import PropTrace.Proofs.Independence
import PropTrace.Proofs.PostOrder
import PropTrace.Proofs.Visitors
import PropTrace.Proofs.Records
import PropTrace.Proofs.Spans
import PropTrace.Proofs.Erasure
import PropTrace.Proofs.Nesting
import PropTrace.Proofs.Enclosing
import PropTrace.Proofs.History
import PropTrace.Proofs.Hoisting
import PropTrace.Proofs.Leniency
import PropTrace.Proofs.Shadowing
import PropTrace.Proofs.Paths
import PropTrace.Proofs.Guard
import PropTrace.Proofs.Declarations
import PropTrace.Proofs.Discipline
import PropTrace.Proofs.Agreement
import PropTrace.Proofs.Layouts
import PropTrace.Proofs.SourceOrder
import PropTrace.Proofs.FilePaths
import PropTrace.Proofs.SourceFiles
import PropTrace.Proofs.Batches
import PropTrace.Proofs.OptionLanguage
import PropTrace.Proofs.ByteOrder
import PropTrace.Proofs.Configured
import PropTrace.Proofs.FirstLine
import PropTrace.Proofs.Checks
import PropTrace.Proofs.Locations
import PropTrace.Proofs.WrittenOptions
