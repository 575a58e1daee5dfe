import TelemetryRelay.Delivery.WaitingRoom
import TelemetryRelay.Main
import TelemetryRelay.Sender.Rehearsal
import TelemetryRelay.Proofs.Record.Spooling
import TelemetryRelay.Proofs.Sender.Balance
import TelemetryRelay.Proofs.Sender.Delivery
import TelemetryRelay.Proofs.Record.Room
import TelemetryRelay.Proofs.Record.Flags
import TelemetryRelay.Proofs.Sender.Halting
import TelemetryRelay.Proofs.Record.Limit
import TelemetryRelay.Proofs.Record.Refusal
import TelemetryRelay.Proofs.Sampling.Composing
import TelemetryRelay.Proofs.Sampling.Pipeline
import TelemetryRelay.Proofs.Record.Rewriting
import TelemetryRelay.Proofs.Delivery.Order
import TelemetryRelay.Proofs.Sampling.Keys
import TelemetryRelay.Proofs.Sampling.Histories
import TelemetryRelay.Proofs.Spool.Appending
import TelemetryRelay.Proofs.Spool.Failing
import TelemetryRelay.Proofs.Spool.Retaining
import TelemetryRelay.Proofs.Delivery.Destination
import TelemetryRelay.Proofs.Delivery.Waking
import TelemetryRelay.Proofs.Record.Capacity
import TelemetryRelay.Proofs.Sampling.Reuse
import TelemetryRelay.Proofs.Sampling.Retries
import TelemetryRelay.Proofs.Record.Restating
import TelemetryRelay.Proofs.Gzip.Batch
import TelemetryRelay.Proofs.Settings.Admissible
import TelemetryRelay.Proofs.Delivery.Naming
import TelemetryRelay.Proofs.Delivery.Verdict
import TelemetryRelay.Proofs.Sampling.Fitting
import TelemetryRelay.Proofs.Record.InPlace
import TelemetryRelay.Proofs.Record.Growth
