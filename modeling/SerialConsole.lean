import SerialConsole.Connection
import SerialConsole.Logging.Filter
import SerialConsole.Rehearsal.Basic
import SerialConsole.Settings.File
import SerialConsole.Proofs.Command.Grammar
import SerialConsole.Proofs.Command.Shell
import SerialConsole.Proofs.Command.Status
import SerialConsole.Proofs.Poll.Timing
import SerialConsole.Proofs.Connection.Operations
import SerialConsole.Proofs.Output.Calls
import SerialConsole.Proofs.Output.Segments
import SerialConsole.Proofs.Session.Stream
import SerialConsole.Proofs.Transfer.Answers
import SerialConsole.Proofs.Transfer.Canonical
import SerialConsole.Proofs.Transport.Availability
import SerialConsole.Proofs.Transport.Command
import SerialConsole.Proofs.Transport.Echo
import SerialConsole.Proofs.Transport.Files
import SerialConsole.Proofs.Transport.Login
import SerialConsole.Proofs.Transport.Runs
import SerialConsole.Proofs.Output.Visible
import SerialConsole.Proofs.Session.Arrivals
import SerialConsole.Proofs.Session.Delivery
import SerialConsole.Proofs.Transport.Delivery
import SerialConsole.Proofs.Session.Bytes
import SerialConsole.Proofs.Transport.Bytes
import SerialConsole.Proofs.Poll.Acceptance
import SerialConsole.Proofs.Text.Excerpt
import SerialConsole.Proofs.Session.Reports
import SerialConsole.Proofs.Session.Deeds
import SerialConsole.Proofs.Transport.Reports

