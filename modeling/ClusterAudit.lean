import ClusterAudit.Main
import ClusterAudit.Proofs.Text.Bytes
import ClusterAudit.Proofs.Number.Binary64
import ClusterAudit.Proofs.Rule.Catalogue
import ClusterAudit.Proofs.Configuration.Active
import ClusterAudit.Proofs.Configuration.Faults
import ClusterAudit.Proofs.Configuration.Document
import ClusterAudit.Proofs.Counting.Index
import ClusterAudit.Proofs.Report.Derived
import ClusterAudit.Proofs.Report.Score
import ClusterAudit.Proofs.Report.Origin
import ClusterAudit.Proofs.Report.Reference
import ClusterAudit.Proofs.Report.Narrowing
import ClusterAudit.Proofs.Report.Namespaces
import ClusterAudit.Proofs.Report.Lookup
import ClusterAudit.Proofs.Report.Exemptions
import ClusterAudit.Proofs.Report.Independence
import ClusterAudit.Proofs.Report.Escalation
import ClusterAudit.Proofs.Report.Identity
import ClusterAudit.Proofs.Service.Gathering
import ClusterAudit.Proofs.Service.Session
import ClusterAudit.Proofs.Service.Results
import ClusterAudit.Proofs.Evaluation.Findings
import ClusterAudit.Proofs.Evaluation.Tallies
import ClusterAudit.Proofs.Report.Rearrangement
import ClusterAudit.Proofs.Report.Joining
import ClusterAudit.Proofs.Snapshot.Directory
import ClusterAudit.Proofs.Vulnerability.Severity
import ClusterAudit.Proofs.Vulnerability.Usage
import ClusterAudit.Proofs.Command.Audit
import ClusterAudit.Proofs.Service.Metering
import ClusterAudit.Proofs.Number.Quotient
import ClusterAudit.Proofs.Report.Rounding
import ClusterAudit.Proofs.Report.Improvement
import ClusterAudit.Proofs.Command.Scanner
import ClusterAudit.Proofs.Configuration.Coverage
import ClusterAudit.Proofs.Vulnerability.Counters
import ClusterAudit.Proofs.Snapshot.Stream
import ClusterAudit.Proofs.Snapshot.Restriction
import ClusterAudit.Proofs.Report.Summaries
import ClusterAudit.Proofs.Vulnerability.Groups
import ClusterAudit.Proofs.Text.Decoding
import ClusterAudit.Proofs.Vulnerability.Classification
import ClusterAudit.Proofs.Url.Extend
import ClusterAudit.Proofs.Scanner.Addresses
import ClusterAudit.Proofs.Rule.Image
import ClusterAudit.Proofs.Service.Queries
import ClusterAudit.Proofs.Json.Fields
import ClusterAudit.Proofs.Json.Reading
import ClusterAudit.Proofs.Vulnerability.Payload
import ClusterAudit.Proofs.Configuration.Schema
import ClusterAudit.Proofs.Json.Completeness
import ClusterAudit.Proofs.Vulnerability.Codec
