import RecordQuery.Club.Records
import RecordQuery.Page.Headers
import RecordQuery.Service
import RecordQuery.Sql.Statement
import RecordQuery.Proofs.Chronology
import RecordQuery.Proofs.Compilation
import RecordQuery.Proofs.Meaning
import RecordQuery.Proofs.Answers
import RecordQuery.Proofs.Binding
import RecordQuery.Proofs.Narrowing
import RecordQuery.Proofs.Paging
import RecordQuery.Proofs.Joins
import RecordQuery.Proofs.Multiplicity
import RecordQuery.Proofs.Conjunction
import RecordQuery.Proofs.ByteOrder
import RecordQuery.Proofs.Faults
import RecordQuery.Proofs.Requests
import RecordQuery.Proofs.Placeholders
import RecordQuery.Proofs.Protocol
import RecordQuery.Proofs.Reach
import RecordQuery.Proofs.Shapes
import RecordQuery.Proofs.Runs
import RecordQuery.Proofs.Composition
import RecordQuery.Proofs.Contents
import RecordQuery.Proofs.Spelling
import RecordQuery.Proofs.Partition
import RecordQuery.Proofs.Presence
import RecordQuery.Proofs.Sorting
import RecordQuery.Proofs.Substrings
import RecordQuery.Proofs.Timeline
import RecordQuery.Proofs.Variants
import RecordQuery.Proofs.Display
import RecordQuery.Proofs.TypedPaging
import RecordQuery.Proofs.PageFaults
import RecordQuery.Proofs.PageHeaders
import RecordQuery.Proofs.SortGrammar
import RecordQuery.Proofs.PrintableHeaders
import RecordQuery.Proofs.SortedPages
import RecordQuery.Proofs.EmptyFilters
import RecordQuery.Proofs.Slots
