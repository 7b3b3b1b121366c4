import Roster.Connection.Target
import Roster.Digest
import Roster.Groupware.Script
import Roster.Layout.Migration
import Roster.Main
import Roster.Maintenance
import Roster.Proofs.Agreement
import Roster.Proofs.Audit
import Roster.Proofs.CommandLine.OneShot
import Roster.Proofs.Connection.Scheme
import Roster.Proofs.Consent.Effect
import Roster.Proofs.Job.Delivery
import Roster.Proofs.Outbox.Batches
import Roster.Proofs.Outbox.Deduplication
import Roster.Proofs.Outbox.History
import Roster.Proofs.Outbox.LastRequest
import Roster.Proofs.Outbox.Stranding
import Roster.Proofs.Reconcile.AnyOrder
import Roster.Proofs.Reconcile.Atomicity
import Roster.Proofs.Reconcile.Ordinary
import Roster.Proofs.Reconcile.Replay
import Roster.Proofs.Schedule.Course
import Roster.Proofs.Schedule.Interval
import Roster.Proofs.Schedule.Tick
import Roster.Proofs.Settings.Bounds
import Roster.Proofs.Settings.Memo
import Roster.Proofs.Settings.Operational
import Roster.Proofs.Settings.Requests
import Roster.Proofs.Settings.Unreadable
import Roster.Proofs.Standing.Batch
import Roster.Proofs.Standing.Boundaries
import Roster.Proofs.Standing.Deadlines
import Roster.Proofs.Standing.Independence
import Roster.Proofs.Standing.Selection
import Roster.Proofs.Standing.Shortcuts
import Roster.Proofs.Standing.Volunteers
import Roster.Proofs.Store.Removal
import Roster.Proofs.Width.Run
import Roster.Report
import Roster.Text.Blank
import Roster.Text.Lines
import Roster.Value.Reader
import Roster.Value.Writer
