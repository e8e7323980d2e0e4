import CiClient.Client.Exchange
import CiClient.Client.Operations
import CiClient.Client.Step
import CiClient.Error
import CiClient.Http.Header
import CiClient.Http.Method
import CiClient.Http.Status
import CiClient.Job.Document
import CiClient.Job.Name
import CiClient.Job.Path
import CiClient.Json.Decode
import CiClient.Json.Error
import CiClient.Json.Print
import CiClient.Json.Reader
import CiClient.Json.Scalar
import CiClient.Json.Value
import CiClient.Number.Binary64
import CiClient.Number.Shortest
import CiClient.Service.Builder
import CiClient.Service.Call
import CiClient.Service.Crumb
import CiClient.Service.Diagnostics
import CiClient.Service.Directory
import CiClient.Service.Hook
import CiClient.Service.Script
import CiClient.Service.SharedCrumb
import CiClient.Service.Wire
import CiClient.Text.Unicode
import CiClient.Text.Utf8
import CiClient.Url.Basic
import CiClient.Url.Edit
import CiClient.Url.Host
import CiClient.Url.Parser
import CiClient.Url.Path
import CiClient.Url.Percent
import CiClient.Proofs.PathReading
import CiClient.Proofs.PercentEncoding
import CiClient.Proofs.BaseUrl
import CiClient.Proofs.JobRequestUrl
import CiClient.Proofs.CopyRequestUrl
import CiClient.Proofs.ServicePrefix
import CiClient.Proofs.ClientHeaders
import CiClient.Proofs.SharedCrumbCache
import CiClient.Proofs.OperationCalls
import CiClient.Proofs.CrumbCache
import CiClient.Proofs.NameRefusal
import CiClient.Proofs.NameRules
import CiClient.Proofs.ClusterUrl
import CiClient.Proofs.SegmentPush
import CiClient.Proofs.ServiceRoutes
import CiClient.Proofs.ResponseDiagnostics
import CiClient.Proofs.WireOutcome
import CiClient.Proofs.LenientScan
import CiClient.Proofs.ReaderRuns
import CiClient.Proofs.ValueTree
import CiClient.Proofs.SkipReading
import CiClient.Proofs.TypedReading
import CiClient.Proofs.JobListDocument
import CiClient.Proofs.SortedFields
import CiClient.Proofs.ScalarText
import CiClient.Proofs.CompactReading
import CiClient.Proofs.JobReading
import CiClient.Proofs.DocumentValues
import CiClient.Proofs.DocumentRoundTrip
