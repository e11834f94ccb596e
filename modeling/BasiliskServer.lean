import BasiliskServer.Companion.Config
import BasiliskServer.Compiler.Call
import BasiliskServer.Diagnostics.Merge
import BasiliskServer.Diagnostics.Store
import BasiliskServer.Files.Environment
import BasiliskServer.Files.Uri
import BasiliskServer.Json.Parser
import BasiliskServer.Json.Value
import BasiliskServer.Main
import BasiliskServer.Proofs.Json.RoundTrip
import BasiliskServer.Proofs.Json.Scalar
import BasiliskServer.Proofs.Rpc.Resynchronisation
import BasiliskServer.Proofs.Rpc.RoundTrip
import BasiliskServer.Proofs.Rpc.Slicing
import BasiliskServer.Proofs.Text.Utf8
import BasiliskServer.Rpc.Frame
import BasiliskServer.Rpc.Requests
import BasiliskServer.Settings.Resolve
import BasiliskServer.Source.Completions
import BasiliskServer.Source.Dialect
import BasiliskServer.Source.QuickCheck
import BasiliskServer.Source.SymbolIndex
import BasiliskServer.Source.Token
import BasiliskServer.Tasks.Heap
import BasiliskServer.Tool.CommandLine
import BasiliskServer.Tool.Options
import BasiliskServer.Tool.Report
import BasiliskServer.World.Description
import BasiliskServer.World.Editor
import BasiliskServer.World.Run
import BasiliskServer.World.Tool
import BasiliskServer.World.Transcript
import BasiliskServer.Proofs.Rpc.Correlation
import BasiliskServer.Proofs.Diagnostics.Store
import BasiliskServer.Proofs.Diagnostics.Staleness
import BasiliskServer.Proofs.Tasks.Operations
import BasiliskServer.Proofs.Tasks.Scheduler
import BasiliskServer.World.Timeline
import BasiliskServer.Proofs.World.Background
import BasiliskServer.Proofs.World.Background.Features
import BasiliskServer.Proofs.World.View.Connections
import BasiliskServer.Proofs.World.Exclusion
import BasiliskServer.Proofs.World.Coherence
import BasiliskServer.Proofs.World.Service
import BasiliskServer.Proofs.World.Steps
import BasiliskServer.Proofs.World.KeeperSteps
import BasiliskServer.Proofs.World.SessionSteps
import BasiliskServer.Proofs.World.Runs
import BasiliskServer.Proofs.World.Documents
import BasiliskServer.Proofs.World.Synchronisation
import BasiliskServer.World.Incidents
import BasiliskServer.Proofs.Rpc.Decisions
import BasiliskServer.Proofs.World.Alone
import BasiliskServer.Proofs.Rpc.Questions
import BasiliskServer.Proofs.Diagnostics.Freshness
import BasiliskServer.Proofs.World.HandlingSteps
import BasiliskServer.Proofs.World.Solitude
import BasiliskServer.Proofs.World.Aloof
import BasiliskServer.Proofs.World.Answers
import BasiliskServer.Proofs.World.Crashes
import BasiliskServer.Proofs.World.Settlement
import BasiliskServer.Proofs.World.Sayings
import BasiliskServer.Proofs.World.Handshake
import BasiliskServer.Proofs.World.Conversation
import BasiliskServer.Proofs.Rpc.Identity
import BasiliskServer.Proofs.Tool.Options
import BasiliskServer.Proofs.Source.Tokens
import BasiliskServer.Proofs.Diagnostics.Capping
import BasiliskServer.Proofs.World.ExitOrder
import BasiliskServer.Proofs.World.Admission
import BasiliskServer.Proofs.World.Custody
import BasiliskServer.Proofs.World.Accounts
import BasiliskServer.Proofs.World.Renewals
import BasiliskServer.Proofs.World.Restarts
import BasiliskServer.Proofs.Tasks.Recasting
import BasiliskServer.Proofs.World.Noninterference.Steps
import BasiliskServer.Proofs.Tool.Limits
import BasiliskServer.Proofs.World.Check.ExitCode
import BasiliskServer.Proofs.World.Check.Guarantees
import BasiliskServer.Proofs.World.Check.Scheduler
import BasiliskServer.Proofs.World.Check.Helpers
import BasiliskServer.Proofs.World.Check.FirstTask
import BasiliskServer.Proofs.World.Check.StageSteps
import BasiliskServer.Proofs.World.Check.Cleanup
import BasiliskServer.Proofs.Source.SymbolIndex
import BasiliskServer.Proofs.Source.Bodies
import BasiliskServer.Proofs.Source.Words
import BasiliskServer.Proofs.Source.Nesting
import BasiliskServer.Proofs.Source.Structures
import BasiliskServer.Proofs.Source.Selections
import BasiliskServer.Proofs.Diagnostics.Completions
import BasiliskServer.Proofs.Source.Dialect
import BasiliskServer.Proofs.Source.Priority
import BasiliskServer.Proofs.Compiler.ReadBack
import BasiliskServer.Proofs.Settings.IncludePaths
import BasiliskServer.Proofs.Companion.Fingerprint
import BasiliskServer.Proofs.Files.Uri
