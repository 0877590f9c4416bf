import TableScan.FileSystem.Memory
import TableScan.Main
import TableScan.Proofs.Columnar.Batches
import TableScan.Proofs.Columnar.Maps
import TableScan.Proofs.Columnar.Nulls
import TableScan.Proofs.Columnar.TypeName
import TableScan.Proofs.CommandLine.Printing
import TableScan.Proofs.Descriptor.Separators
import TableScan.Proofs.Descriptor.Wrapper
import TableScan.Proofs.File.Chunks
import TableScan.Proofs.File.LineOwnership
import TableScan.Proofs.File.Positions
import TableScan.Proofs.FileSystem.Listing
import TableScan.Proofs.Impersonation.Exchange
import TableScan.Proofs.Json.Unambiguity
import TableScan.Proofs.Partition.Reading
import TableScan.Proofs.Reader.LineEnds
import TableScan.Proofs.Report.Keys
import TableScan.Proofs.Report.Tabs
import TableScan.Proofs.Scan.Eligibility
import TableScan.Proofs.Session.Accounting
import TableScan.Proofs.Session.Classification
import TableScan.Proofs.Session.Closing
import TableScan.Proofs.Session.Columns
import TableScan.Proofs.Session.Cuts
import TableScan.Proofs.Session.Enumeration
import TableScan.Proofs.Session.FailingDisk
import TableScan.Proofs.Session.Failure
import TableScan.Proofs.Session.HiddenProgress
import TableScan.Proofs.Session.Iteration
import TableScan.Proofs.Session.Placement
import TableScan.Proofs.Session.Projection
import TableScan.Proofs.Session.Retrying
import TableScan.Proofs.Session.UnshownRow
import TableScan.Proofs.Session.Withheld
import TableScan.Proofs.Split.Cover
