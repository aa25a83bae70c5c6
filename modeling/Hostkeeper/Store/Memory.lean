import Hostkeeper.Store.Client
import Hostkeeper.Text.Quoted

/-! A store kept in memory. A `Database` holds the committed tables and a version that moves with every write;
any number of clients hold replicas of it, taken when they last ran. -/
namespace Hostkeeper.Memory

structure Database where
  tables : KeyMap (KeyMap Fields)
  lastId : Nat
  version : Nat
  failingRuns : Nat
  forcedStatus : Option CommitStatus
  commits : List Transaction

/-- A client's replica, the version it was taken at, and the version up to which the client was notified. -/
structure Client where
  replica : KeyMap TableSnapshot
  seen : Nat
  notified : Nat

def rowId (n : Nat) : RowId :=
  String.ofList (Text.paddedHex 8 n ++ "-0000-4000-8000-".toList ++ Text.paddedHex 12 n)

namespace Database

def new (tables : List String) : Database :=
  {tables := .ofList (tables.map (·,.empty)), lastId := 0, version := 0, failingRuns := 0,
   forcedStatus := none, commits := []}

def rowsOf (db : Database) (table : String) : KeyMap Fields := (db.tables.get? table).getD .empty

def rows (db : Database) (table : String) : List Row := (db.rowsOf table).entries.map fun e => ⟨e.1,e.2⟩

def hasRow (db : Database) (table : String) (id : RowId) : Bool := (db.rowsOf table).contains id

def bump (db : Database) : Database := {db with version := db.version + 1}

def addRow (db : Database) (table : String) (fields : Fields) : Database :=
  {db with
    lastId := db.lastId + 1
    tables := db.tables.insert table ((db.rowsOf table).insert (rowId (db.lastId + 1)) fields)}

def setColumns (db : Database) (table : String) (id : RowId) (fields : Fields) : Database :=
  {db with tables := db.tables.modify table (·.modify id (·.merge fields))}

def insertRow (db : Database) (table : String) (fields : Fields) : RowId × Database :=
  (rowId (db.lastId + 1),(db.addRow table fields).bump)

def updateRow (db : Database) (table : String) (id : RowId) (fields : Fields) : Bool × Database :=
  if db.hasRow table id then (true,(db.setColumns table id fields).bump) else (false,db)

def removeRow (db : Database) (table : String) (id : RowId) : Bool × Database :=
  if db.hasRow table id then
    (true,{db with tables := db.tables.modify table (·.erase id)}.bump)
  else (false,db)

def failNextRuns (db : Database) (count : Nat) : Database := {db with failingRuns := count}

def forceCommitStatus (db : Database) (status : CommitStatus) : Database :=
  {db with forcedStatus := some status}

/-- The status of a write that does not fit the tables. -/
def misfit (db : Database) : Write → Option CommitStatus
  | .insert table _ =>
    if db.tables.contains table then none else some (.error ("unknown table " ++ table))
  | .update table id _ => if db.hasRow table id then none else some .tryAgain

def applyWrite (db : Database) : Write → Database
  | .insert table fields => db.addRow table fields
  | .update table id fields => db.setColumns table id fields

/-- Applies a transaction if every write fits the tables as they are before it. -/
def apply (db : Database) (t : Transaction) : CommitStatus × Database :=
  match t.writes.findSome? db.misfit with
  | some status => (status,db)
  | none => (.success,(t.writes.foldl applyWrite db).bump)

def commit (db : Database) (t : Transaction) : CommitStatus × Database :=
  let logged := {db with commits := db.commits ++ [t]}
  match db.forcedStatus with
  | some status => (status,logged)
  | none => if t.isEmpty then (.unchanged,logged) else logged.apply t

def snapshots (db : Database) : KeyMap TableSnapshot :=
  db.tables.map fun name _ => .ofRows name (db.rows name)

def attach (db : Database) : Client := ⟨.empty,0,db.version⟩

end Database

structure Session where
  db : Database
  client : Client

namespace Session

def new (tables : List String) : Session :=
  let db := Database.new tables
  ⟨db,db.attach⟩

def run (s : Session) : Except StoreError Unit × Session :=
  if s.db.failingRuns > 0 then
    (.error (.unreachable "memory" "injected failure"),
      {s with db := {s.db with failingRuns := s.db.failingRuns - 1}})
  else (.ok (),{s with client := ⟨s.db.snapshots,s.db.version,s.db.version⟩})

def hasNews (s : Session) : Bool := s.db.version ≠ s.client.seen

def isUnnotified (s : Session) : Bool := s.db.version ≠ s.client.notified

/-- The client takes note of the current version without taking it in. -/
def notify (s : Session) : Session := {s with client := {s.client with notified := s.db.version}}

end Session

instance : StoreClient Session where
  run s := s.run
  version s := s.client.seen
  table s name :=
    match s.client.replica.get? name with
    | some snapshot => .ok snapshot
    | none => .error (.unknownTable name)
  commit t s := (.ok (s.db.commit t).1,{s with db := (s.db.commit t).2})

end Hostkeeper.Memory
