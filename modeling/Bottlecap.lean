import Bottlecap.Foundations.Loop
import Bottlecap.Foundations.Machine
import Bottlecap.Foundations.Lists
import Bottlecap.Foundations.Totals
import Bottlecap.Logs.HeldLogs
import Bottlecap.Logs.Releases
import Bottlecap.Logs.HoldTermination
import Bottlecap.Logs.HeldLogRuns
import Bottlecap.Logs.Messages
import Bottlecap.Logs.LambdaProcessor
import Bottlecap.Logs.Intake
import Bottlecap.Logs.Conservation
import Bottlecap.Logs.LogAccounts
import Bottlecap.Extension.Events
import Bottlecap.Foundations.Rendezvous
import Bottlecap.Lifecycle.Span
import Bottlecap.Lifecycle.SpanInferrer
import Bottlecap.Lifecycle.Context
import Bottlecap.Lifecycle.Processor
import Bottlecap.Lifecycle.Handlers
import Bottlecap.Extension.EventLoop
import Bottlecap.Lifecycle.Tracker
import Bottlecap.Lifecycle.Simulation
import Bottlecap.Lifecycle.InitTags
import Bottlecap.Lifecycle.RequestLife
import Bottlecap.Lifecycle.SentSpans
import Bottlecap.Lifecycle.CompanionSpans
import Bottlecap.Lifecycle.Pairing
import Bottlecap.Lifecycle.Release
import Bottlecap.Lifecycle.QueueOrder
import Bottlecap.Lifecycle.NamedEvents
import Bottlecap.Lifecycle.StartEvents
import Bottlecap.Lifecycle.EndEvents
import Bottlecap.Logs.Orphans
import Bottlecap.Logs.OrphanRuns
import Bottlecap.Logs.Shutdown
import Bottlecap.Foundations.Slices
import Bottlecap.Telemetry.Stitch
import Bottlecap.Telemetry.Envelopes
import Bottlecap.Telemetry.Restoration
import Bottlecap.Foundations.JsonText
import Bottlecap.Telemetry.PlainJson
import Bottlecap.Telemetry.CutBodies
import Bottlecap.Telemetry.Listener
import Bottlecap.Telemetry.SplitPosts
import Bottlecap.Flushing.Flushers
import Bottlecap.Flushing.TraceRedrive
import Bottlecap.Flushing.Service
import Bottlecap.Flushing.Rounds
import Bottlecap.Flushing.BlockingFlush
import Bottlecap.Flushing.Cycles
import Bottlecap.Appsec.HeldTraces
import Bottlecap.Logs.Aggregator
import Bottlecap.Lifecycle.Counters
import Bottlecap.Traces.Reparenting
import Bottlecap.Traces.GuessedTraces
import Bottlecap.Lifecycle.Redaction
import Bottlecap.Traces.Forwarder
import Bottlecap.Extension.FlushControl
import Bottlecap.Extension.MainLoop
import Bottlecap.Extension.ShutdownSequence
import Bottlecap.Extension.PhaseReports
import Bottlecap.Logs.ReportDurations
import Bottlecap.Lifecycle.MessageTriggers
import Bottlecap.Logs.Masking
import Bottlecap.Lifecycle.StepFunctions
import Bottlecap.Lifecycle.Identification
import Bottlecap.Lifecycle.WrappedSpans
import Bottlecap.Foundations.HeaderText
import Bottlecap.Traces.Propagation
import Bottlecap.Lifecycle.StartInvocation
import Bottlecap.Appsec.Cookies
import Bottlecap.Otlp.Transform
import Bottlecap.Secrets.Decrypt
import Bottlecap.Foundations.Grouping
import Bottlecap.Otlp.Processor
import Bottlecap.Traces.TraceIdTags
import Bottlecap.Logs.BufferCalls
import Bottlecap.Logs.BufferLedger
import Bottlecap.Logs.ContextRuns
import Bottlecap.Logs.HeldOrder
import Bottlecap.DataStreams.PathwayContext
import Bottlecap.DataStreams.Sketch
import Bottlecap.DataStreams.SketchLayout
import Bottlecap.DataStreams.SketchRuns
import Bottlecap.Foundations.ProtoWire
import Bottlecap.DataStreams.SketchProto
import Bottlecap.DataStreams.StatsBuckets
import Bottlecap.Traces.ChunkProcessor
import Bottlecap.Otlp.SpanErrors
import Bottlecap.Extension.FlushDecisions
import Bottlecap.Traces.TraceProcessor
import Bottlecap.Lifecycle.BufferRuns
import Bottlecap.Traces.SpanDedup
import Bottlecap.Traces.TraceAggregator
import Bottlecap.Telemetry.HeldFragments
import Bottlecap.Appsec.Headers
import Bottlecap.Otlp.Timestamps
import Bottlecap.Flushing.Attempts
import Bottlecap.Traces.StatsAggregator
