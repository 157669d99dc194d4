import Dicebox.Main
import Dicebox.Session.Perform
import Dicebox.Proofs.Text.Digits
import Dicebox.Proofs.Throw.Limits
import Dicebox.Proofs.Throw.Reading
import Dicebox.Proofs.Number.Magnitude
import Dicebox.Proofs.Number.Nearest
import Dicebox.Proofs.Number.HalfEven
import Dicebox.Proofs.Number.Rounded
import Dicebox.Proofs.Throw.Face
import Dicebox.Proofs.Throw.Rounding
import Dicebox.Proofs.Throw.Spread
import Dicebox.Proofs.Throw.Alignment
import Dicebox.Proofs.Metrics.Accounts
import Dicebox.Proofs.Metrics.Booking
import Dicebox.Proofs.Run.Recording
import Dicebox.Proofs.Throw.Rolling
import Dicebox.Proofs.Throw.Evaluation
import Dicebox.Proofs.Throw.Accounting
import Dicebox.Proofs.Report.Counting
import Dicebox.Proofs.Settings.Recording
import Dicebox.Proofs.Command.Registrations
import Dicebox.Proofs.Command.Balance
import Dicebox.Proofs.Command.Answering
import Dicebox.Proofs.Throw.Watching
import Dicebox.Proofs.Command.Watching
import Dicebox.Proofs.Command.Unanswered
import Dicebox.Proofs.Report.Figures
import Dicebox.Proofs.Report.Tabulation
import Dicebox.Proofs.Text.Zeros
import Dicebox.Proofs.Throw.Writing
import Dicebox.Proofs.Throw.Telling
import Dicebox.Proofs.Settings.Configuration
import Dicebox.Proofs.Settings.Sources
import Dicebox.Proofs.Settings.Resolution
import Dicebox.Proofs.Settings.Defaults
import Dicebox.Proofs.CommandLine.Console
import Dicebox.Proofs.Text.DecimalInteger
import Dicebox.Proofs.CommandLine.Choices
import Dicebox.Proofs.CommandLine.Agreement
import Dicebox.Proofs.CommandLine.Parameters
import Dicebox.Proofs.Metrics.History
import Dicebox.Proofs.Metrics.Exchange
import Dicebox.Proofs.Metrics.Listing
import Dicebox.Proofs.Session.Commands
import Dicebox.Proofs.Session.Flattening
import Dicebox.Proofs.Session.Places
import Dicebox.Proofs.Session.Isolation
import Dicebox.Proofs.Log.Hearing
import Dicebox.Proofs.Log.Thresholds
import Dicebox.Proofs.Report.Percentages
import Dicebox.Proofs.Report.Deviation
import Dicebox.Proofs.Throw.Pieces
import Dicebox.Proofs.Throw.BreakingOff
