import Hostkeeper.Decimal.Reader
import Hostkeeper.Host.Files
import Hostkeeper.Reconcile.Loop
import Hostkeeper.Text.Numeral

/-! The telemetry domain: samples the host's load, temperature and free memory in every tick, and publishes the
readings that could be taken in the single telemetry row. -/
namespace Hostkeeper

structure Sample where
  cpuLoad : Option Binary64 := none
  temp : Option Binary64 := none
  ramFree : Option Int64 := none
  deriving DecidableEq, Repr

namespace Sample

def isEmpty (s : Sample) : Bool := s.cpuLoad.isNone && s.temp.isNone && s.ramFree.isNone

def fields (s : Sample) : Fields :=
  .ofList ((s.cpuLoad.map fun x => ("cpu_load",Json.ofBinary64 x)).toList ++
    (s.temp.map fun x => ("temp",Json.ofBinary64 x)).toList ++
    (s.ramFree.map fun n => ("ram_free",Json.int n.toInt)).toList)

end Sample

namespace Telemetry

structure Roots where
  proc : String := "/proc"
  thermal : String := "/sys/class/thermal"

def parseLoad (content : String) : Option Binary64 := (Text.words content).head?.bind Decimal.read

/-- The number after the first `MemAvailable:` that opens a line with a number after it. -/
def parseMemory (content : String) : Option Int64 :=
  (Text.lines content).findSome? fun line =>
    match Text.words line with
    | "MemAvailable:" :: number :: _ => (Text.readInt64 number).toOption.map Int64.ofInt
    | _ => none

def degrees (millidegrees : Int) : Binary64 := (Binary64.ofInt millidegrees).div (Binary64.ofNat 1000)

/-- The temperature of the first thermal zone, in name order, that can be read. -/
def readTemperature (files : FileTree) (root : String) : Option Binary64 := do
  let names ← (files.list root).toOption
  (names.filter (Text.startsWith · "thermal_zone")).findSome? fun name => do
    let content ← (files.readText (joinPath (joinPath root name) "temp")).toOption
    let millidegrees ← (Text.readInt64 (Text.trim content)).toOption
    return degrees millidegrees

def sample (files : FileTree) (roots : Roots) : Sample where
  cpuLoad := (files.readText (joinPath roots.proc "loadavg")).toOption.bind parseLoad
  temp := readTemperature files roots.thermal
  ramFree := (files.readText (joinPath roots.proc "meminfo")).toOption.bind parseMemory

def table : String := Table.telemetry.name

/-- The transaction that publishes a sample: into the first row of the table, or into a new one. -/
def transaction (sample : Sample) (s : Snapshot) : Transaction :=
  ⟨[.upsert table (((s.table? table).bind (·.first?)).map (·.id)) sample.fields]⟩

def publish {σ : Type} [StoreClient σ] (sample : Sample) (s : Snapshot) (store : σ) : SyncReport × σ :=
  if sample.isEmpty then (SyncReport.recordSkipped {} table "no metric could be read",store)
  else
    match StoreClient.commit (transaction sample s) store with
    | (.ok status,store) =>
      (if status.isSuccess then SyncReport.recordApplied {} else SyncReport.recordFailure {} table status.message,
        store)
    | (.error e,store) => (SyncReport.recordFailure {} table e.message,store)

def domain {σ δ : Type} [StoreClient σ] (measure : δ → Sample) : Domain σ δ where
  tables := [table]
  everyTick := true
  sync s state store :=
    let (report,store) := publish (measure state) s store
    (report,state,store)

end Telemetry

end Hostkeeper
