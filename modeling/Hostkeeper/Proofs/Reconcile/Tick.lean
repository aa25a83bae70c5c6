import Hostkeeper.Proofs.Store.Snapshot
import Hostkeeper.Reconcile.Loop
import Hostkeeper.Store.Memory

/-! What one tick does on a store in memory: it fails, is idle, or hands the domain the snapshots
of the rows that are committed when it runs. -/
namespace Hostkeeper

namespace Memory

/-- A session whose client has just taken in the whole database. -/
def Session.current (s : Session) : Session := {s with client := ⟨s.db.snapshots,s.db.version,s.db.version⟩}

def Session.refused (s : Session) : Session :=
  {s with db := {s.db with failingRuns := s.db.failingRuns - 1}}

@[simp] theorem Session.db_current (s : Session) : s.current.db = s.db := rfl

theorem Session.run_refused (s : Session) (failing : s.db.failingRuns > 0) :
    s.run = (.error (.unreachable "memory" "injected failure"),s.refused) := if_pos failing

theorem Session.run_current (s : Session) (working : ¬s.db.failingRuns > 0) :
    s.run = (.ok (),s.current) := if_neg working

/-- A current replica holds a table exactly when the database does, with its committed rows. -/
theorem Session.table_current (s : Session) (name : String) :
    StoreClient.table s.current name =
      if s.db.tables.contains name then .ok (.ofRows name (s.db.rows name)) else .error (.unknownTable name) := by
  have found : s.db.snapshots.get? name = (s.db.tables.get? name).map fun _ => .ofRows name (s.db.rows name) :=
    KeyMap.get?_map _ _ _
  have contained : s.db.tables.contains name = (s.db.tables.get? name).isSome := rfl
  rw [contained]
  simp only [StoreClient.table,Session.current,found]
  cases s.db.tables.get? name <;> rfl

theorem Database.shows_rows {db : Database} {name : String} {contents : KeyMap Fields}
    (held : db.tables.get? name = some contents) : (TableSnapshot.ofRows name (db.rows name)).Shows contents := by
  rw [rows,rowsOf,held]
  exact TableSnapshot.shows_ofRows name contents

end Memory

namespace ReconcileLoop

open Memory

variable {σ δ : Type}

/-- Whether a tick that has advanced the store leaves the domain alone. -/
def IsIdle [StoreClient σ] (domain : Domain σ δ) (last : Option Nat) (store : σ) : Prop :=
  last = some (StoreClient.version store) ∧ domain.everyTick = false

theorem tick_refused [StoreClient σ] (domain : Domain σ δ) (l : ReconcileLoop σ δ) {e : StoreError} {store : σ}
    (run : StoreClient.run l.store = (.error e,store)) : l.tick domain = (.failed e,{l with store}) := by
  simp only [tick,run]

theorem tick_idle [StoreClient σ] (domain : Domain σ δ) (l : ReconcileLoop σ δ) {store : σ}
    (run : StoreClient.run l.store = (.ok (),store)) (idle : IsIdle domain l.lastVersion store) :
    l.tick domain = (.idle,{l with store}) := by
  simp only [tick,run]
  exact if_pos idle

theorem tick_missing [StoreClient σ] (domain : Domain σ δ) (l : ReconcileLoop σ δ) {e : StoreError} {store : σ}
    (run : StoreClient.run l.store = (.ok (),store)) (due : ¬IsIdle domain l.lastVersion store)
    (failed : snapshot store (StoreClient.version store) domain.tables = .error e) :
    l.tick domain = (.failed e,{l with store}) := by
  simp only [tick,run,failed]
  exact if_neg due

theorem tick_synced [StoreClient σ] (domain : Domain σ δ) (l : ReconcileLoop σ δ) {s : Snapshot} {store : σ}
    (run : StoreClient.run l.store = (.ok (),store)) (due : ¬IsIdle domain l.lastVersion store)
    (taken : snapshot store (StoreClient.version store) domain.tables = .ok s) :
    l.tick domain = (.synced (domain.sync s l.state store).1,
      ⟨(domain.sync s l.state store).2.2,(domain.sync s l.state store).2.1,some (StoreClient.version store)⟩) := by
  simp only [tick,run,taken]
  exact if_neg due

/-- A store client that gives out each table under its own name. -/
def NamesTables [StoreClient σ] (store : σ) : Prop :=
  ∀ name table, StoreClient.table store name = .ok table → table.table = name

private theorem version_from [StoreClient σ] {store : σ} (tables : List String) (initial result : Snapshot)
    (ok : tables.foldlM (fun s name => (StoreClient.table store name).map s.withTable) initial = .ok result) :
    result.version = initial.version := by
  induction tables generalizing initial with
  | nil =>
    cases ok
    rfl
  | cons head rest ih =>
    cases read : StoreClient.table store head with
    | error e => simp [List.foldlM_cons,read,Except.map,bind,Except.bind] at ok
    | ok table =>
      exact ih (initial.withTable table) (by simpa [List.foldlM_cons,read,Except.map,bind,Except.bind] using ok)

theorem version_of_snapshot [StoreClient σ] {store : σ} {version : Nat} {tables : List String} {result : Snapshot}
    (ok : snapshot store version tables = .ok result) : result.version = version :=
  version_from tables (.new version) result ok

private theorem snapshot_from [StoreClient σ] {store : σ} (named : NamesTables store) (tables : List String)
    (initial result : Snapshot)
    (ok : tables.foldlM (fun s name => (StoreClient.table store name).map s.withTable) initial = .ok result) :
    (∀ name ∈ tables, ∃ table, StoreClient.table store name = .ok table ∧ result.table? name = some table) ∧
    ∀ name, name ∉ tables → result.table? name = initial.table? name := by
  induction tables generalizing initial with
  | nil =>
    cases ok
    exact ⟨by simp,fun _ _ => rfl⟩
  | cons head rest ih =>
    cases read : StoreClient.table store head with
    | error e => simp [List.foldlM_cons,read,Except.map,bind,Except.bind] at ok
    | ok table =>
      have tail : rest.foldlM (fun s name => (StoreClient.table store name).map s.withTable)
          (initial.withTable table) = .ok result := by
        simpa [List.foldlM_cons,read,Except.map,bind,Except.bind] using ok
      obtain ⟨found,kept⟩ := ih (initial.withTable table) tail
      have after (name : String) : (initial.withTable table).table? name =
          if name = head then some table else initial.table? name := by
        simp [Snapshot.withTable,Snapshot.table?,named head table read]
      refine ⟨fun name member => ?_,fun name absent => ?_⟩
      · by_cases later : name ∈ rest
        · exact found name later
        · have same : name = head := (List.mem_cons.mp member).resolve_right later
          refine ⟨table,same ▸ read,?_⟩
          rw [kept name later,after,if_pos same]
      · obtain ⟨other,later⟩ : name ≠ head ∧ name ∉ rest := by simpa using absent
        rw [kept name later,after,if_neg other]

private theorem snapshot_error_from [StoreClient σ] {store : σ} (tables : List String)
    (initial : Snapshot) (e : StoreError)
    (failed : tables.foldlM (fun s name => (StoreClient.table store name).map s.withTable) initial = .error e) :
    ∃ name ∈ tables, StoreClient.table store name = .error e := by
  induction tables generalizing initial with
  | nil => cases failed
  | cons head rest ih =>
    cases read : StoreClient.table store head with
    | error cause =>
      have same : cause = e := by simpa [List.foldlM_cons,read,Except.map,bind,Except.bind] using failed
      exact ⟨head,by simp,same ▸ read⟩
    | ok table =>
      obtain ⟨name,member,found⟩ := ih (initial.withTable table)
        (by simpa [List.foldlM_cons,read,Except.map,bind,Except.bind] using failed)
      exact ⟨name,List.mem_cons_of_mem _ member,found⟩

/-- A snapshot that was taken holds every table asked for, as the store gives it out. -/
theorem snapshot_ok [StoreClient σ] {store : σ} (named : NamesTables store) {version : Nat}
    {tables : List String} {result : Snapshot} (ok : snapshot store version tables = .ok result) :
    result.version = version ∧
    ∀ name ∈ tables, ∃ table, StoreClient.table store name = .ok table ∧ result.table? name = some table :=
  ⟨version_of_snapshot ok,(snapshot_from named tables (.new version) result ok).1⟩

theorem snapshot_error [StoreClient σ] {store : σ} {version : Nat} {tables : List String} {e : StoreError}
    (failed : snapshot store version tables = .error e) :
    ∃ name ∈ tables, StoreClient.table store name = .error e :=
  snapshot_error_from tables (.new version) e failed

theorem namesTables_current (s : Session) : NamesTables s.current := by
  intro name table read
  rw [s.table_current] at read
  split at read
  · cases read
    exact TableSnapshot.table_ofRows _ _
  · cases read

/-- The snapshot has the given tables as they are committed, each with the last row of every key, under the version
of the database. -/
structure Captures (snapshot : Snapshot) (db : Database) (tables : List String) : Prop where
  version_eq : snapshot.version = db.version
  table_eq : ∀ name ∈ tables, snapshot.table? name = some (.ofRows name (db.rows name))
  shows : ∀ name ∈ tables, ∃ contents table, db.tables.get? name = some contents ∧
    snapshot.table? name = some table ∧ table.table = name ∧ table.Shows contents

theorem captures_current {s : Session} {tables : List String} {result : Snapshot}
    (ok : snapshot s.current s.db.version tables = .ok result) : Captures result s.db tables := by
  obtain ⟨version,found⟩ := snapshot_ok (namesTables_current s) ok
  have each (name : String) (member : name ∈ tables) : s.db.tables.contains name ∧
      result.table? name = some (.ofRows name (s.db.rows name)) := by
    obtain ⟨table,read,held⟩ := found name member
    rw [s.table_current] at read
    split at read
    next present =>
      cases read
      exact ⟨present,held⟩
    next => cases read
  refine ⟨version,fun name member => (each name member).2,fun name member => ?_⟩
  obtain ⟨present,held⟩ := each name member
  obtain ⟨contents,committed⟩ := Option.isSome_iff_exists.mp present
  exact ⟨contents,_,committed,held,TableSnapshot.table_ofRows _ _,Database.shows_rows committed⟩

theorem missing_current {s : Session} {version : Nat} {tables : List String} {e : StoreError}
    (failed : snapshot s.current version tables = .error e) : ∃ name ∈ tables, ¬s.db.tables.contains name := by
  obtain ⟨name,member,read⟩ := snapshot_error failed
  refine ⟨name,member,fun present => ?_⟩
  rw [s.table_current,if_pos present] at read
  cases read

/-- Everything that a tick on a store in memory can do. -/
inductive TickCase (domain : Domain Session δ) (l : ReconcileLoop Session δ) :
    TickOutcome × ReconcileLoop Session δ → Prop
  | refused (e : StoreError) (failing : l.store.db.failingRuns > 0) :
      TickCase domain l (.failed e,{l with store := l.store.refused})
  | idle (working : ¬l.store.db.failingRuns > 0) (seen : l.lastVersion = some l.store.db.version)
      (quiet : domain.everyTick = false) :
      TickCase domain l (.idle,{l with store := l.store.current})
  | missing (e : StoreError) (absent : ∃ name ∈ domain.tables, ¬l.store.db.tables.contains name) :
      TickCase domain l (.failed e,{l with store := l.store.current})
  | synced (s : Snapshot) (captured : Captures s l.store.db domain.tables)
      (due : l.lastVersion = some l.store.db.version → domain.everyTick = true) :
      TickCase domain l (.synced (domain.sync s l.state l.store.current).1,
        ⟨(domain.sync s l.state l.store.current).2.2,(domain.sync s l.state l.store.current).2.1,
          some l.store.db.version⟩)

theorem tick_cases (domain : Domain Session δ) (l : ReconcileLoop Session δ) :
    TickCase domain l (l.tick domain) := by
  by_cases failing : l.store.db.failingRuns > 0
  · rw [tick_refused domain l (l.store.run_refused failing)]
    exact .refused _ failing
  · have run := l.store.run_current failing
    by_cases idle : IsIdle domain l.lastVersion l.store.current
    · rw [tick_idle domain l run idle]
      exact .idle failing idle.1 idle.2
    · cases taken : snapshot l.store.current (StoreClient.version l.store.current) domain.tables with
      | error e =>
        rw [tick_missing domain l run idle taken]
        exact .missing e (missing_current taken)
      | ok s =>
        rw [tick_synced domain l run idle taken]
        refine .synced s (captures_current taken) fun seen => ?_
        exact Bool.of_not_eq_false fun quiet => idle ⟨seen,quiet⟩

end ReconcileLoop

end Hostkeeper
