import Hostkeeper.Schema.Column

/-! The records of the five tables, and reading them from rows. Columns are read in key order, so the first bad
one in that order is reported; columns that a table does not have are ignored. -/
namespace Hostkeeper

class Record (α : Type) where
  table : Table
  addressing : Addressing
  read : Fields → Except ColumnFault α
  columns : α → List (String × Json)
  name : α → Option String

/-- Reads a row: its columns must fit, and a keyed table's name must not be empty. -/
def decodeRow {α : Type} [Record α] (fields : Fields) : Except SchemaError α :=
  match Record.read fields with
  | .error fault => .error (.invalidRow (Record.table α) fault)
  | .ok record =>
    if Record.addressing α = .keyed ∧ (Record.name record).getD "" = "" then
      .error (.emptyName (Record.table α))
    else .ok record

def encodeRecord {α : Type} [Record α] (record : α) : Fields := .ofList (Record.columns record)

private def textColumn (value : Option String) : Json := (value.map Json.text).getD .null

private def wordColumn {α : Type} [Word α] (value : Option α) : Json :=
  (value.map fun w => Json.text (Word.text w)).getD .null

private def intColumn (value : Option Int) : Json := (value.map Json.int).getD .null

private def realColumn (value : Option Binary64) : Json := (value.map Json.ofBinary64).getD .null

structure SystemSettings where
  hostname : Option String := none
  timezone : Option String := none
  loggingLevel : Option LogLevel := none
  deriving DecidableEq, Repr

instance : Record SystemSettings where
  table := .system
  addressing := .singleton
  read fields := do
    let hostname ← Column.optional Column.takeText fields "hostname"
    let loggingLevel ← Column.optional Column.takeWord fields "logging_level"
    let timezone ← Column.optional Column.takeText fields "timezone"
    return {hostname, timezone, loggingLevel}
  columns r := [("hostname",textColumn r.hostname),("timezone",textColumn r.timezone),
    ("logging_level",wordColumn r.loggingLevel)]
  name _ := none

structure InterfaceSpec where
  name : String := ""
  ip : Option String := none
  state : Option LinkState := none
  mtu : Option UInt32 := none
  vlan : Option UInt16 := none
  deriving DecidableEq, Repr

instance : Record InterfaceSpec where
  table := .interface
  addressing := .keyed
  read fields := do
    let ip ← Column.optional Column.takeText fields "ip"
    let mtu ← Column.optional Column.takeWord32 fields "mtu"
    let name ← Column.name fields
    let state ← Column.optional Column.takeWord fields "state"
    let vlan ← Column.optional Column.takeWord16 fields "vlan"
    return {name, ip, state, mtu, vlan}
  columns r := [("name",.text r.name),("ip",textColumn r.ip),("state",wordColumn r.state),
    ("mtu",intColumn (r.mtu.map fun n => (n.toNat : Int))),
    ("vlan",intColumn (r.vlan.map fun n => (n.toNat : Int)))]
  name r := some r.name

structure StorageSpec where
  targetIqn : Option String := none
  portalIp : Option String := none
  lun : Option UInt32 := none
  mountPoint : Option String := none
  deriving DecidableEq, Repr

instance : Record StorageSpec where
  table := .storage
  addressing := .unkeyed
  read fields := do
    let lun ← Column.optional Column.takeWord32 fields "lun"
    let mountPoint ← Column.optional Column.takeText fields "mount_point"
    let portalIp ← Column.optional Column.takeText fields "portal_ip"
    let targetIqn ← Column.optional Column.takeText fields "target_iqn"
    return {targetIqn, portalIp, lun, mountPoint}
  columns r := [("target_iqn",textColumn r.targetIqn),("portal_ip",textColumn r.portalIp),
    ("lun",intColumn (r.lun.map fun n => (n.toNat : Int))),("mount_point",textColumn r.mountPoint)]
  name _ := none

namespace StorageSpec

def defaultMountRoot : String := "/mnt"

/-- The target's name and portal, both needed for a login. -/
def target (spec : StorageSpec) : Except SchemaError (String × String) :=
  match spec.targetIqn.bind Text.trimmed?, spec.portalIp.bind Text.trimmed? with
  | some iqn, some portal => .ok (iqn,portal)
  | none, _ => .error (.missingField .storage "target_iqn")
  | some _, none => .error (.missingField .storage "portal_ip")

def lunOrDefault (spec : StorageSpec) : UInt32 := spec.lun.getD 0

/-- The mount point, made from the target's name when unset. -/
def mountPoint? (spec : StorageSpec) : Option String :=
  (spec.mountPoint.bind Text.trimmed?).or
    ((spec.targetIqn.bind Text.trimmed?).map fun iqn =>
      defaultMountRoot ++ "/" ++ Text.replaceChar ':' '_' iqn)

end StorageSpec

structure VmSpec where
  name : String := ""
  cpu : Option UInt32 := none
  /-- Guest memory in MiB. -/
  ram : Option UInt64 := none
  diskPath : Option String := none
  pciPassthrough : List String := []
  state : Option PowerState := none
  deriving DecidableEq, Repr

instance : Record VmSpec where
  table := .virtualMachine
  addressing := .keyed
  read fields := do
    let cpu ← Column.optional Column.takeWord32 fields "cpu"
    let diskPath ← Column.optional Column.takeText fields "disk_path"
    let name ← Column.name fields
    let pciPassthrough ← Column.texts fields "pci_passthrough"
    let ram ← Column.optional Column.takeWord64 fields "ram"
    let state ← Column.optional Column.takeWord fields "state"
    return {name, cpu, ram, diskPath, pciPassthrough, state}
  columns r := [("name",.text r.name),("cpu",intColumn (r.cpu.map fun n => (n.toNat : Int))),
    ("ram",intColumn (r.ram.map fun n => (n.toNat : Int))),("disk_path",textColumn r.diskPath),
    ("pci_passthrough",.list (r.pciPassthrough.map .text)),("state",wordColumn r.state)]
  name r := some r.name

namespace VmSpec

/-- Guest memory in MiB; unset and zero count as 512. -/
def ramMb (spec : VmSpec) : UInt64 := if spec.ram.getD 0 = 0 then 512 else spec.ram.getD 0

def vcpus (spec : VmSpec) : UInt32 := if spec.cpu.getD 0 = 0 then 1 else spec.cpu.getD 0

def disk (spec : VmSpec) : Option String := spec.diskPath.bind Text.trimmed?

end VmSpec

structure TelemetryRecord where
  /-- Load average over one minute. -/
  cpuLoad : Option Binary64 := none
  temp : Option Binary64 := none
  ramFree : Option Int64 := none
  deriving DecidableEq, Repr

instance : Record TelemetryRecord where
  table := .telemetry
  addressing := .singleton
  read fields := do
    let cpuLoad ← Column.optional Column.takeReal fields "cpu_load"
    let ramFree ← Column.optional Column.takeInt64 fields "ram_free"
    let temp ← Column.optional Column.takeReal fields "temp"
    return {cpuLoad, temp, ramFree}
  columns r := [("cpu_load",realColumn r.cpuLoad),("temp",realColumn r.temp),
    ("ram_free",intColumn (r.ramFree.map Int64.toInt))]
  name _ := none

end Hostkeeper
