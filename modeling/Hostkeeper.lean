import Hostkeeper.Main
import Hostkeeper.Rehearsal.Launchers
import Hostkeeper.Rehearsal.Probe
import Hostkeeper.Rehearsal.Run
import Hostkeeper.Rehearsal.Timeline
import Hostkeeper.Proofs.KeyMap
import Hostkeeper.Proofs.Store.Calls
import Hostkeeper.Proofs.Store.Datum
import Hostkeeper.Proofs.Store.Rows
import Hostkeeper.Proofs.Store.Commit
import Hostkeeper.Proofs.Store.Clients
import Hostkeeper.Proofs.Reconcile.Passes
import Hostkeeper.Proofs.Json.Compact
import Hostkeeper.Proofs.Ovsdb.Contents
import Hostkeeper.Proofs.Ovsdb.Runs
import Hostkeeper.Proofs.Ovsdb.Server
import Hostkeeper.Proofs.Ovsdb.Agreement
import Hostkeeper.Proofs.Vm.Process
import Hostkeeper.Proofs.Vm.Supervisor
import Hostkeeper.Proofs.Vm.Accounting
import Hostkeeper.Proofs.Vm.Rows
import Hostkeeper.Proofs.Vm.Passes
import Hostkeeper.Proofs.Schema.Record
import Hostkeeper.Proofs.Store.Returned
import Hostkeeper.Proofs.Text.Numeral
import Hostkeeper.Proofs.Operator.Setting
import Hostkeeper.Proofs.Store.Lone
import Hostkeeper.Proofs.Telemetry.Publisher
import Hostkeeper.Proofs.Network.Steps
import Hostkeeper.Proofs.Network.Pass
import Hostkeeper.Proofs.Reconcile.Retries
import Hostkeeper.Proofs.Text.Lines
import Hostkeeper.Proofs.Host.Histories
import Hostkeeper.Proofs.Network.Switch
import Hostkeeper.Proofs.Storage.Mounts
import Hostkeeper.Proofs.Operator.Sets
import Hostkeeper.Proofs.Json.Canonical
import Hostkeeper.Proofs.Vm.Stopping
import Hostkeeper.Proofs.Vm.Convergence
import Hostkeeper.Proofs.Reconcile.Shutdown
import Hostkeeper.Proofs.Store.Keys
import Hostkeeper.Proofs.Storage.Attach
import Hostkeeper.Proofs.Schema.Columns
import Hostkeeper.Proofs.Schema.Decoding
import Hostkeeper.Proofs.Vm.Options
import Hostkeeper.Proofs.Operator.Limits
import Hostkeeper.Proofs.Ovsdb.Selects
import Hostkeeper.Proofs.Telemetry.Readings
import Hostkeeper.Proofs.Vm.Console
import Hostkeeper.Proofs.Storage.Devices
import Hostkeeper.Proofs.Network.Level
import Hostkeeper.Proofs.System.Timezone
import Hostkeeper.Proofs.Store.Listing
import Hostkeeper.Proofs.System.Level
