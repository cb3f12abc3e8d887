import ClusterGate.Gate
import ClusterGate.Proofs.Gate
import ClusterGate.Proofs.Redaction.Redact
import ClusterGate.Proofs.Request.Restated
import ClusterGate.Request.Action
import ClusterGate.Proofs.Request.Boundary
import ClusterGate.Proofs.Request.Agreement
import ClusterGate.Proofs.Redaction.Idempotence
import ClusterGate.Proofs.Json.Within
import ClusterGate.Proofs.Redaction.Widening
import ClusterGate.Proofs.Request.CleanParams
import ClusterGate.Proofs.Request.Completeness
import ClusterGate.Proofs.Request.Parts
import ClusterGate.Proofs.Redaction.Coverage
import ClusterGate.Proofs.Request.Located
import ClusterGate.Proofs.Request.Restriction
import ClusterGate.Proofs.Verdict
import ClusterGate.Proofs.Api.Options
import ClusterGate.Proofs.Api.Routes
import ClusterGate.Proofs.Api.Derivation
import ClusterGate.Proofs.Api.Consistency
import ClusterGate.Proofs.Api.Shadowing
import ClusterGate.Proofs.Api.CamelCase
import ClusterGate.Proofs.Reports
import ClusterGate.Proofs.Redaction.Loading
import ClusterGate.Proofs.Redaction.AllOrNothing
import ClusterGate.Proofs.Request.Order
import ClusterGate.Proofs.Request.Query
import ClusterGate.Proofs.Request.QueryOrder
import ClusterGate.Proofs.Json.Numerals
import ClusterGate.Proofs.Json.Skipped
import ClusterGate.Proofs.Request.WireForm
import ClusterGate.Proofs.Redaction.Mirror
import ClusterGate.Proofs.Request.Extraction
import ClusterGate.Proofs.Request.Action
