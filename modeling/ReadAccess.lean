import ReadAccess.Text.RawText
import ReadAccess.Text.Blank
import ReadAccess.Text.Combining
import ReadAccess.Text.Invisible
import ReadAccess.Text.Quoted
import ReadAccess.Permission
import ReadAccess.Metadata
import ReadAccess.Verdict
import ReadAccess.Path
import ReadAccess.AccessError
import ReadAccess.Acl.Pass
import ReadAccess.ModeBits
import ReadAccess.Query
import ReadAccess.Groups.Planned
import ReadAccess.Host.Memberships
import ReadAccess.Host.AccessLists
import ReadAccess.Live
import ReadAccess.Memory.Checker
import ReadAccess.Session
import ReadAccess.Verbosity.DebugFlags
import ReadAccess.Filter
import ReadAccess.Verbosity.Document
import ReadAccess.CommandLine.Run
import ReadAccess.Host.Inventory
import ReadAccess.Main
import ReadAccess.Proofs.Grants
import ReadAccess.Proofs.Decision
import ReadAccess.Proofs.Indifference
import ReadAccess.Proofs.Masks
import ReadAccess.Proofs.Naming
import ReadAccess.Proofs.Fallback
import ReadAccess.Proofs.Attribution
import ReadAccess.Proofs.PassReports
import ReadAccess.Proofs.Proceedings
import ReadAccess.Proofs.EventLog
import ReadAccess.Proofs.Enumeration
import ReadAccess.Proofs.RunResults
import ReadAccess.Proofs.Checkers
import ReadAccess.Proofs.Sessions
import ReadAccess.Proofs.Policies
import ReadAccess.Proofs.Retries
import ReadAccess.Proofs.MinimalLists
import ReadAccess.Proofs.Orderly
import ReadAccess.Proofs.Rehearsal
import ReadAccess.Proofs.Composition
import ReadAccess.Proofs.Widening
import ReadAccess.Proofs.Scanning
import ReadAccess.Proofs.Diagnostics
import ReadAccess.Proofs.BreakingOff
import ReadAccess.Proofs.Storing
import ReadAccess.Proofs.ReadingBack
import ReadAccess.Proofs.SinglePass
import ReadAccess.Proofs.BufferContents
import ReadAccess.Proofs.GrowthSchedule
import ReadAccess.Proofs.FlagLevels
import ReadAccess.Proofs.LogFilter
import ReadAccess.Proofs.LogProjection
import ReadAccess.Proofs.FlagGrammar
import ReadAccess.Proofs.FlagLists
import ReadAccess.Proofs.FlagOptions
import ReadAccess.Proofs.FailingOutput
import ReadAccess.Proofs.Operands
import ReadAccess.Proofs.ResultLines
import ReadAccess.Proofs.NextCapacity
