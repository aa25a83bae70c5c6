import Hostkeeper.Host.Path
import Hostkeeper.Store.Ovsdb
import Hostkeeper.Text.Numeral

/-! The settings of an agent, read from environment variables. A variable that is unset or blank leaves its
default. -/
namespace Hostkeeper

structure Config where
  storeRemote : String := "unix:/var/run/openvswitch/db.sock"
  storeDb : String := "Edge"
  schemaPath : String := "/etc/openvswitch/system.ovsschema"
  bridge : String := "br0"
  qemuBin : String := "qemu-system-aarch64"
  vmCgroupProcs : String := "/sys/fs/cgroup/vm.slice/cgroup.procs"
  vmStopTimeout : Nat := 10
  /-- Milliseconds between two passes, in place of a domain's own interval. -/
  pollInterval : Option Nat := none
  timezoneFile : String := "/etc/timezone"
  logLevel : String := "info"
  deriving DecidableEq, Repr

structure ConfigError where
  name : String
  found : String
  cause : Text.NumeralError
  deriving DecidableEq, Repr

def ConfigError.message (e : ConfigError) : String := "invalid " ++ e.name ++ ": " ++ e.found

namespace Config

def setting? (lookup : String → Option String) (name : String) : Option String :=
  (lookup name).filter fun value => (Text.trimmed? value).isSome

def number (lookup : String → Option String) (name : String) : Except ConfigError (Option Nat) :=
  match setting? lookup name with
  | none => .ok none
  | some found =>
    match Text.readNat (UInt64.size - 1) (Text.trim found) with
    | .ok n => .ok (some n)
    | .error cause => .error ⟨name,found,cause⟩

def ofLookup (lookup : String → Option String) : Except ConfigError Config := do
  let text (name default : String) : String := (setting? lookup name).getD default
  let defaults : Config := {}
  let stopTimeout ← number lookup "EDGE_VM_STOP_TIMEOUT_SECS"
  let pollInterval ← number lookup "EDGE_POLL_INTERVAL_MS"
  return {
    storeRemote := text "EDGE_STORE_REMOTE" defaults.storeRemote
    storeDb := text "EDGE_STORE_DB" defaults.storeDb
    schemaPath := text "EDGE_SCHEMA_PATH" defaults.schemaPath
    bridge := text "EDGE_BRIDGE" defaults.bridge
    qemuBin := text "EDGE_QEMU_BIN" defaults.qemuBin
    vmCgroupProcs := text "EDGE_VM_CGROUP_PROCS" defaults.vmCgroupProcs
    vmStopTimeout := stopTimeout.getD defaults.vmStopTimeout
    pollInterval
    timezoneFile := text "EDGE_TIMEZONE_FILE" defaults.timezoneFile
    logLevel := text "EDGE_LOG_LEVEL" defaults.logLevel}

/-- Whether these are the default settings, paths compared as paths. -/
def isDefault (c : Config) : Bool :=
  let d : Config := {}
  samePath c.schemaPath d.schemaPath && samePath c.qemuBin d.qemuBin &&
    samePath c.vmCgroupProcs d.vmCgroupProcs && samePath c.timezoneFile d.timezoneFile &&
    {c with schemaPath := d.schemaPath, qemuBin := d.qemuBin, vmCgroupProcs := d.vmCgroupProcs,
             timezoneFile := d.timezoneFile} = d

def store (c : Config) (tables : List String) : OvsdbConfig where
  remote := c.storeRemote
  database := c.storeDb
  schemaPath := some c.schemaPath
  tables := tables

end Config

end Hostkeeper
