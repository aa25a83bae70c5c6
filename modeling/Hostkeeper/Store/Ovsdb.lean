import Hostkeeper.Digest
import Hostkeeper.Host.Command
import Hostkeeper.Store.Wire

/-! A store client that drives the `ovsdb-client` program. Each run sends one request for all its tables and
replaces the replica whole; the version moves when the digest of the replica does. A monitor, another run of
the program, prints a line for every change of the store. -/
namespace Hostkeeper

structure OvsdbConfig where
  remote : String := "unix:/var/run/openvswitch/db.sock"
  database : String := "Edge"
  /-- The schema file that must be there to connect. -/
  schemaPath : Option String := none
  tables : List String := []
  clientBin : String := "ovsdb-client"
  deriving DecidableEq, Repr

structure Monitor where
  unread : List UInt8
  ended : Bool

inductive MonitorNews where
  | line (rest : Monitor)
  /-- The monitor has ended, or its line is no text. -/
  | over
  | silence

namespace Monitor

def next (m : Monitor) : MonitorNews :=
  let line := m.unread.takeWhile (· ≠ 10)
  let whole := line.length < m.unread.length
  if whole || m.ended then
    if !whole && line.isEmpty then .over
    else if (Text.Utf8.decode? line).isSome then .line {m with unread := m.unread.drop (line.length + 1)}
    else .over
  else .silence

end Monitor

namespace Ovsdb

structure Program (ω : Type) where
  fileExists : String → ω → Bool
  call : List String → ω → Except OsError ProgramEnd × ω
  monitor : List String → ω → Except OsError Monitor × ω

structure Replica where
  config : OvsdbConfig
  cache : KeyMap TableSnapshot
  digest : Option ContentDigest
  version : Nat
  monitor : Option Monitor

structure Session (ω : Type) where
  program : Program ω
  world : ω
  replica : Replica

def cacheJson (cache : KeyMap TableSnapshot) : Json :=
  .ofFields (cache.map fun _ table =>
    .ofFields (.ofList (table.toList.map fun row => (row.id,.ofFields row.fields))))

/-- Takes in the tables of a successful run. -/
def Replica.accept (r : Replica) (cache : KeyMap TableSnapshot) : Replica :=
  let digest := ContentDigest.ofJson (cacheJson cache)
  if r.digest = some digest then {r with cache}
  else {r with cache, version := r.version + 1, digest := some digest}

def readResults (remote : String) (result : Except OsError ProgramEnd) : Except StoreError (List Json) :=
  match result with
  | .error e => .error (.io e)
  | .ok fin =>
    if fin.code ≠ some 0 then
      .error (.unreachable remote (Text.trim (Text.Utf8.decodeLossy fin.stderr)))
    else
      match Json.read fin.stdout with
      | .error e => .error (.json e)
      | .ok (.list results) => .ok results
      | .ok other => .error (.protocol (.notList other))

namespace Session

variable {ω : Type}

/-- Starts a monitor unless one is running; without one, waits only pass the time. -/
def ensureMonitor (s : Session ω) : Session ω :=
  match s.replica.monitor with
  | some _ => s
  | none =>
    let c := s.replica.config
    match s.program.monitor ["--format=json","monitor",c.remote,c.database,"ALL"] s.world with
    | (.ok monitor,world) => {s with world, replica := {s.replica with monitor := some monitor}}
    | (.error _,world) => {s with world}

def transact (s : Session ω) (request : Json) : Except StoreError (List Json) × Session ω :=
  let remote := s.replica.config.remote
  let (result,world) := s.program.call ["transact",remote,request.compact] s.world
  (readResults remote result,{s with world})

def connect (program : Program ω) (config : OvsdbConfig) (world : ω) : Except StoreError (Session ω) × ω :=
  match config.schemaPath.filter (!program.fileExists · world) with
  | some path => (.error (.schemaMissing path),world)
  | none =>
    match program.call ["list-dbs",config.remote] world with
    | (.error e,world) =>
      (.error (.unreachable config.remote
        ("failed to execute " ++ config.clientBin ++ ": " ++ e.message)),world)
    | (.ok fin,world) =>
      if fin.code ≠ some 0 then
        (.error (.unreachable config.remote (Text.trim (Text.Utf8.decodeLossy fin.stderr))),world)
      else if (Text.lines (Text.Utf8.decodeLossy fin.stdout)).any (Text.trim · = config.database) then
        let s := ensureMonitor ⟨program,world,⟨config,.empty,none,0,none⟩⟩
        (.ok s,s.world)
      else (.error (.databaseMissing config.database),world)

def run (s : Session ω) : Except StoreError Unit × Session ω :=
  let s := s.ensureMonitor
  let c := s.replica.config
  let (results,s) := s.transact (Wire.selectRequest c.database c.tables)
  match results.bind (Wire.decodeSelect c.tables) with
  | .error e => (.error e,s)
  | .ok cache => (.ok (),{s with replica := s.replica.accept cache})

def commit (t : Transaction) (s : Session ω) : Except StoreError CommitStatus × Session ω :=
  if t.isEmpty then (.ok .unchanged,s)
  else
    let (results,s) := s.transact (Wire.transactRequest s.replica.config.database t)
    (results.map (Wire.commitStatus t),s)

/-- Waits for the monitor, so many milliseconds at most; tells whether the whole time passed. -/
def wait (s : Session ω) (timeout : Nat) : Bool × Session ω :=
  match s.replica.monitor.map Monitor.next with
  | none | some .silence => (true,s)
  | some (.line rest) => (timeout = 0,{s with replica := {s.replica with monitor := some rest}})
  | some .over => (timeout = 0,{s with replica := {s.replica with monitor := none}})

end Session

instance (ω : Type) : StoreClient (Session ω) where
  run s := s.run
  version s := s.replica.version
  table s name :=
    match s.replica.cache.get? name with
    | some snapshot => .ok snapshot
    | none => .error (.unknownTable name)
  commit := Session.commit

end Ovsdb

end Hostkeeper
