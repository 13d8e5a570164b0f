import Footfall.Main
import Footfall.Mail.Message
import Footfall.Render.Events
import Footfall.Schedule.Upkeep
import Footfall.Service.Handle
import Footfall.Proofs.Funnel.Reach
import Footfall.Proofs.Admission.Run
import Footfall.Proofs.Scalar
import Footfall.Proofs.Admission.Bucket
import Footfall.Proofs.Admission.Rate
import Footfall.Proofs.Admission.Idle
import Footfall.Proofs.Cache.Operations
import Footfall.Proofs.Cache.History
import Footfall.Proofs.Cache.Refinement
import Footfall.Proofs.Cache.Eviction
import Footfall.Proofs.Cache.Alike
import Footfall.Proofs.Cache.Lookups
import Footfall.Proofs.Traffic.Batch
import Footfall.Proofs.Traffic.Project
import Footfall.Proofs.Traffic.Detector
import Footfall.Proofs.Text.Blank
import Footfall.Proofs.Service.Collect
import Footfall.Proofs.Service.Disclosure
import Footfall.Proofs.Settings
import Footfall.Proofs.Service.Reload
import Footfall.Proofs.Admission.Concurrent
import Footfall.Proofs.Cache.Contents
import Footfall.Proofs.Revenue.Conservation
import Footfall.Proofs.Admission.Isolation
import Footfall.Proofs.Json.Fields
import Footfall.Proofs.Webhook.FanOut
import Footfall.Proofs.Cache.ReadThrough
import Footfall.Proofs.Webhook.Freshness
import Footfall.Proofs.Service.Tenancy
import Footfall.Proofs.Report.Reordering
import Footfall.Proofs.Calendar
import Footfall.Proofs.Goal.Agreement
import Footfall.Proofs.Visitor
import Footfall.Proofs.Report.Rows
import Footfall.Proofs.Report.Consistency
import Footfall.Proofs.Report.Heatmap
import Footfall.Proofs.Traffic.Run
import Footfall.Proofs.Traffic.Invariant
import Footfall.Proofs.Traffic.Sanity
import Footfall.Proofs.Admission.Refill
import Footfall.Proofs.Admission.Refusal
import Footfall.Proofs.Admission.Limits
import Footfall.Proofs.Admission.Retry
import Footfall.Proofs.Service.Retention
import Footfall.Proofs.Text.Utf8
import Footfall.Proofs.Webhook.Delivery
import Footfall.Proofs.Time.Shift
import Footfall.Proofs.Service.Range
import Footfall.Proofs.Service.Periods
import Footfall.Proofs.Http.Cors
import Footfall.Proofs.Event.NormalForm
import Footfall.Proofs.Funnel.Rates
import Footfall.Proofs.Report.Visits
import Footfall.Proofs.Report.TopRows
import Footfall.Proofs.Service.Properties
import Footfall.Proofs.Report.Peaks
import Footfall.Proofs.Webhook.Secrecy
import Footfall.Proofs.Event.Referrer
import Footfall.Proofs.Text.Split
import Footfall.Proofs.Webhook.Topic
import Footfall.Proofs.Admin.Command
import Footfall.Proofs.Gathering
import Footfall.Proofs.Admin.Run
