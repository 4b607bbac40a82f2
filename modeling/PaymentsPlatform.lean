import PaymentsPlatform.Cdc.Acknowledgement
import PaymentsPlatform.Cdc.Aging
import PaymentsPlatform.Cdc.Agreement
import PaymentsPlatform.Cdc.Archive
import PaymentsPlatform.Cdc.Batching
import PaymentsPlatform.Cdc.Classification
import PaymentsPlatform.Cdc.Concurrency
import PaymentsPlatform.Cdc.Confinement
import PaymentsPlatform.Cdc.Consumer
import PaymentsPlatform.Cdc.Convergence
import PaymentsPlatform.Cdc.Delivery
import PaymentsPlatform.Cdc.Durability
import PaymentsPlatform.Cdc.Envelope
import PaymentsPlatform.Cdc.Evidence
import PaymentsPlatform.Cdc.Footprint
import PaymentsPlatform.Cdc.Identity
import PaymentsPlatform.Cdc.Keys
import PaymentsPlatform.Cdc.Manifest
import PaymentsPlatform.Cdc.Models
import PaymentsPlatform.Cdc.Protocol
import PaymentsPlatform.Cdc.Recovery
import PaymentsPlatform.Cdc.Redaction
import PaymentsPlatform.Cdc.Replay
import PaymentsPlatform.Cdc.Rereading
import PaymentsPlatform.Cdc.States
import PaymentsPlatform.Cdc.Storability
import PaymentsPlatform.Cdc.Storage
import PaymentsPlatform.Cdc.System
import PaymentsPlatform.Cdc.Track
import PaymentsPlatform.Collections.Firsts
import PaymentsPlatform.Collections.Replacing
import PaymentsPlatform.Collections.Selections
import PaymentsPlatform.Collections.Traversal
import PaymentsPlatform.Effects.Contract
import PaymentsPlatform.Effects.Parallel
import PaymentsPlatform.Effects.Program
import PaymentsPlatform.Effects.Service
import PaymentsPlatform.Generators.Generator
import PaymentsPlatform.Generators.Lifecycles
import PaymentsPlatform.Generators.Loading
import PaymentsPlatform.Generators.Records
import PaymentsPlatform.Generators.Schema
import PaymentsPlatform.Generators.Values
import PaymentsPlatform.Orchestration.Control
import PaymentsPlatform.Orchestration.Evidence
import PaymentsPlatform.Orchestration.Gate
import PaymentsPlatform.Orchestration.Incremental
import PaymentsPlatform.Orchestration.Tasks
import PaymentsPlatform.Payments.RefundLimit
import PaymentsPlatform.Payments.Refunds
import PaymentsPlatform.Python.Binary
import PaymentsPlatform.Python.Calendar
import PaymentsPlatform.Python.Canonical
import PaymentsPlatform.Python.Csv
import PaymentsPlatform.Python.DateTime
import PaymentsPlatform.Python.Decimal
import PaymentsPlatform.Python.DecimalText
import PaymentsPlatform.Python.Decoded
import PaymentsPlatform.Python.Encoding
import PaymentsPlatform.Python.Exceptions
import PaymentsPlatform.Python.Iso
import PaymentsPlatform.Python.Json
import PaymentsPlatform.Python.JsonText
import PaymentsPlatform.Python.Path
import PaymentsPlatform.Python.Quantize
import PaymentsPlatform.Python.Readback
import PaymentsPlatform.Python.Repr
import PaymentsPlatform.Python.Rounding
import PaymentsPlatform.Python.Sha256
import PaymentsPlatform.Python.Text
import PaymentsPlatform.Python.TextOrder
import PaymentsPlatform.Python.Utf8
import PaymentsPlatform.Python.Uuid
import PaymentsPlatform.Relational.Sessions
import PaymentsPlatform.Relational.Table
import PaymentsPlatform.Settlement.Acceptance
import PaymentsPlatform.Settlement.Accounting
import PaymentsPlatform.Settlement.Attempt
import PaymentsPlatform.Settlement.Catalogue
import PaymentsPlatform.Settlement.Columns
import PaymentsPlatform.Settlement.Contracts
import PaymentsPlatform.Settlement.DryRun
import PaymentsPlatform.Settlement.Duplication
import PaymentsPlatform.Settlement.Exclusion
import PaymentsPlatform.Settlement.Ingestor
import PaymentsPlatform.Settlement.Layout
import PaymentsPlatform.Settlement.Manifest
import PaymentsPlatform.Settlement.Models
import PaymentsPlatform.Settlement.Outcomes
import PaymentsPlatform.Settlement.Redelivery
import PaymentsPlatform.Settlement.Resumption
import PaymentsPlatform.Settlement.Retention
import PaymentsPlatform.Settlement.Rules
import PaymentsPlatform.Settlement.System
import PaymentsPlatform.Settlement.Uploads
import PaymentsPlatform.Settlement.Validation
import PaymentsPlatform.Settlement.Verdicts
import PaymentsPlatform.Silver.Chronology
import PaymentsPlatform.Silver.Conservation
import PaymentsPlatform.Silver.Deduplication
import PaymentsPlatform.Silver.Discovery
import PaymentsPlatform.Silver.DryRun
import PaymentsPlatform.Silver.Evidence
import PaymentsPlatform.Silver.Fates
import PaymentsPlatform.Silver.Grain
import PaymentsPlatform.Silver.Layout
import PaymentsPlatform.Silver.Manifest
import PaymentsPlatform.Silver.Merging
import PaymentsPlatform.Silver.Models
import PaymentsPlatform.Silver.Money
import PaymentsPlatform.Silver.Newest
import PaymentsPlatform.Silver.Normalizer
import PaymentsPlatform.Silver.Payloads
import PaymentsPlatform.Silver.Processor
import PaymentsPlatform.Silver.Publication
import PaymentsPlatform.Silver.Replaying
import PaymentsPlatform.Silver.Representatives
import PaymentsPlatform.Silver.Revalidation
import PaymentsPlatform.Silver.Rows
import PaymentsPlatform.Silver.Run
import PaymentsPlatform.Silver.SettlementRuns
import PaymentsPlatform.Silver.Settlements
import PaymentsPlatform.Silver.System
