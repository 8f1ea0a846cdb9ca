import Gatekeeper.Main
import Gatekeeper.Shell.Program
import Gatekeeper.Proofs.Gate.Effect
import Gatekeeper.Proofs.Report.Range
import Gatekeeper.Proofs.Number.PercentValue
import Gatekeeper.Proofs.Number.Binary64Value
import Gatekeeper.Proofs.Gate.Pipeline
import Gatekeeper.Proofs.Gate.Verdict
import Gatekeeper.Proofs.Baseline.Content
import Gatekeeper.Proofs.Report.Bounds
import Gatekeeper.Proofs.Gate.History
import Gatekeeper.Proofs.Number.PercentError
import Gatekeeper.Proofs.Number.QuotientValue
import Gatekeeper.Proofs.Report.Counters
import Gatekeeper.Proofs.Baseline.Register
import Gatekeeper.Proofs.Baseline.Room
import Gatekeeper.Proofs.Gate.Judgement
import Gatekeeper.Proofs.Gate.Ending
import Gatekeeper.Proofs.Gate.Certificate
import Gatekeeper.Proofs.Files.Written
import Gatekeeper.Proofs.Settings.Origin
import Gatekeeper.Proofs.Gate.Telling
import Gatekeeper.Proofs.Pipeline.Format
import Gatekeeper.Proofs.Files.Twin
import Gatekeeper.Proofs.Baseline.Twin
import Gatekeeper.Proofs.Baseline.Again
import Gatekeeper.Proofs.Gate.Rerun
import Gatekeeper.Proofs.Files.Tree
import Gatekeeper.Proofs.Gate.Twin
import Gatekeeper.Proofs.Gate.Stale
import Gatekeeper.Proofs.Gate.Decline
import Gatekeeper.Proofs.Gate.Monotone
import Gatekeeper.Proofs.Baseline.Corrupt
import Gatekeeper.Proofs.Gate.Corrupt
import Gatekeeper.Proofs.Markup.Roundtrip
import Gatekeeper.Proofs.Report.Rates
import Gatekeeper.Proofs.Gate.Activity
import Gatekeeper.Proofs.Gate.Stations
import Gatekeeper.Proofs.Gate.ReportOnly
import Gatekeeper.Proofs.Gate.Truncated
import Gatekeeper.Proofs.Baseline.AllOrNothing
import Gatekeeper.Proofs.CommandLine.Masking
import Gatekeeper.Proofs.Report.Tally
import Gatekeeper.Proofs.CommandLine.Answer
import Gatekeeper.Proofs.CommandLine.Logs
import Gatekeeper.Proofs.Pipeline.Tools
