import MailFilter.Action
import MailFilter.Address
import MailFilter.Change
import MailFilter.Checker.Basic
import MailFilter.Checker.Builtin
import MailFilter.Checker.Quota
import MailFilter.Checker.Recipients
import MailFilter.Checker.Registry
import MailFilter.Checker.Rspamd
import MailFilter.Checker.Rules
import MailFilter.Checker.Scripted
import MailFilter.Config.Basic
import MailFilter.Config.Coercion
import MailFilter.Config.Data
import MailFilter.Config.Environment
import MailFilter.Config.File
import MailFilter.Config.Handle
import MailFilter.Config.Path
import MailFilter.Config.Reading
import MailFilter.Config.Validation
import MailFilter.Data.Access
import MailFilter.Data.Basic
import MailFilter.Data.Bytes
import MailFilter.Data.Fields
import MailFilter.Data.Printer
import MailFilter.Data.Reader
import MailFilter.Data.Token
import MailFilter.Fault
import MailFilter.Filter.Callback
import MailFilter.Filter.Reply
import MailFilter.Filter.Run
import MailFilter.Filter.State
import MailFilter.Message.Basic
import MailFilter.Message.Compose
import MailFilter.Message.Mutation
import MailFilter.Metrics.Basic
import MailFilter.Metrics.Exposition
import MailFilter.Milter.Data
import MailFilter.Milter.Link
import MailFilter.Milter.Macros
import MailFilter.Milter.Negotiation
import MailFilter.Milter.Order
import MailFilter.Milter.Packet
import MailFilter.Milter.Rehearsal
import MailFilter.Milter.StatusLine
import MailFilter.Net.Ip
import MailFilter.Number.Reading
import MailFilter.Number.Score
import MailFilter.Number.Shortest
import MailFilter.Number.Style
import MailFilter.Pattern.Basic
import MailFilter.Pattern.Class
import MailFilter.Pattern.Reader
import MailFilter.Proofs.Checker.Counters
import MailFilter.Proofs.Checker.Quota
import MailFilter.Proofs.Filter.AllowList
import MailFilter.Proofs.Filter.Alone
import MailFilter.Proofs.Filter.Departure
import MailFilter.Proofs.Filter.Matching
import MailFilter.Proofs.Filter.Outcome
import MailFilter.Proofs.Filter.Outline
import MailFilter.Proofs.Filter.Settings
import MailFilter.Proofs.Filter.ToEnd
import MailFilter.Proofs.Message.Composing
import MailFilter.Proofs.Message.Headers
import MailFilter.Proofs.Message.Lines
import MailFilter.Proofs.Message.Rewriting
import MailFilter.Proofs.Session.AllowList
import MailFilter.Proofs.Session.Change
import MailFilter.Proofs.Session.Grammar
import MailFilter.Proofs.Session.Table
import MailFilter.Proofs.Store.Queue
import MailFilter.Proofs.Traffic.AllowList
import MailFilter.Proofs.Traffic.Alone
import MailFilter.Proofs.Traffic.Apart
import MailFilter.Proofs.Traffic.Basic
import MailFilter.Proofs.Traffic.Delivery
import MailFilter.Proofs.Traffic.Filing
import MailFilter.Proofs.Traffic.Gate
import MailFilter.Proofs.Traffic.Messages
import MailFilter.Proofs.Traffic.Race
import MailFilter.Proofs.Traffic.Recipients
import MailFilter.Proofs.Traffic.Records
import MailFilter.Proofs.Traffic.Refusal
import MailFilter.Proofs.Traffic.Reloading
import MailFilter.Proofs.Traffic.Report
import MailFilter.Proofs.Traffic.Run
import MailFilter.Proofs.Traffic.Sequential
import MailFilter.Proofs.Traffic.Settings
import MailFilter.Proofs.Traffic.Violation
import MailFilter.Proofs.Verdict.Accounts
import MailFilter.Proofs.Verdict.Collection
import MailFilter.Proofs.Verdict.Judging
import MailFilter.Proofs.Verdict.Order
import MailFilter.Record
import MailFilter.Record.Reading
import MailFilter.Rehearsal.Basic
import MailFilter.Rehearsal.Data
import MailFilter.Rehearsal.Draft
import MailFilter.Rehearsal.Labels
import MailFilter.Rehearsal.Reading
import MailFilter.Session.Basic
import MailFilter.Session.Change
import MailFilter.Session.Connection
import MailFilter.Session.Failure
import MailFilter.Session.Stage
import MailFilter.Session.Table
import MailFilter.Store.Basic
import MailFilter.Store.Directory
import MailFilter.Store.Queue
import MailFilter.Text.Blank
import MailFilter.Text.CaseTable
import MailFilter.Text.Caseless
import MailFilter.Text.DigitTable
import MailFilter.Text.Family
import MailFilter.Text.FoldTable
import MailFilter.Text.HiddenTable
import MailFilter.Text.Lowercase
import MailFilter.Text.RangeTable
import MailFilter.Text.Substitute
import MailFilter.Text.Utf8
import MailFilter.Text.WordTable
import MailFilter.Time
import MailFilter.Toml.Line
import MailFilter.Toml.Moment
import MailFilter.Toml.Number
import MailFilter.Toml.Quoted
import MailFilter.Toml.Reader
import MailFilter.Toml.Section
import MailFilter.Uuid
import MailFilter.Verdict.Basic
import MailFilter.Verdict.Collection
import MailFilter.Verdict.Data
import MailFilter.Verdict.Inspect
import MailFilter.Verdict.Judging
import MailFilter.Verdict.Result
import MailFilter.Verdict.Weighting
import MailFilter.Proofs.Traffic.Violation
import MailFilter.Proofs.Traffic.Judged
import MailFilter.Proofs.Verdict.Share
import MailFilter.Proofs.Checker.Installed
import MailFilter.Proofs.Traffic.Counting
import MailFilter.Proofs.Traffic.Finalized
import MailFilter.Proofs.Message.Marking
import MailFilter.Proofs.Message.Replacing
import MailFilter.Proofs.Verdict.Groups
import MailFilter.Proofs.Verdict.Redistribution
import MailFilter.Proofs.Verdict.Ruling
import MailFilter.Proofs.Verdict.Severity
import MailFilter.Proofs.Checker.Window
import MailFilter.Proofs.Verdict.Breaker
import MailFilter.Proofs.Checker.Limits
import MailFilter.Proofs.Filter.Sweep
import MailFilter.Proofs.Checker.Questioning
import MailFilter.Proofs.Milter.Codes
import MailFilter.Proofs.Milter.Spelling
import MailFilter.Proofs.Address.RoundTrip
import MailFilter.Proofs.Address.Argument
import MailFilter.Proofs.Checker.Routing
import MailFilter.Proofs.Message.Unseen
import MailFilter.Proofs.Checker.Listing
