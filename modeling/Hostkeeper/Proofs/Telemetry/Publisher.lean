import Hostkeeper.Proofs.Reconcile.Tick
import Hostkeeper.Proofs.Store.Lone
import Hostkeeper.Telemetry

/-! The telemetry row of a store in memory. As every tick publishes through the tables that are committed
when it runs, no tick adds a row beside another, however often the row is changed or deleted meanwhile. -/
namespace Hostkeeper

namespace Sample

def Finite (s : Sample) : Prop := (∀ x ∈ s.cpuLoad, x.isFinite) ∧ ∀ x ∈ s.temp, x.isFinite

/-- What was read for a column. -/
def reading? (s : Sample) (column : String) : Option Json :=
  if column = "cpu_load" then s.cpuLoad.map .real
  else if column = "temp" then s.temp.map .real
  else if column = "ram_free" then s.ramFree.map fun n => .int n.toInt
  else none

private theorem lookupEntry_optional (wanted column : String) (value : Option Json) :
    lookupEntry wanted (value.map (column,·)).toList.reverse = if wanted = column then value else none := by
  cases value <;> simp [lookupEntry]

/-- What is published for a column. -/
def published? (s : Sample) (column : String) : Option Json :=
  if column = "cpu_load" then s.cpuLoad.map .ofBinary64
  else if column = "temp" then s.temp.map .ofBinary64
  else if column = "ram_free" then s.ramFree.map fun n => .int n.toInt
  else none

theorem get?_published (s : Sample) : s.fields.get? = s.published? := by
  have load :
      (s.cpuLoad.map fun x => ("cpu_load",Json.ofBinary64 x)) = (s.cpuLoad.map .ofBinary64).map ("cpu_load",·) := by
    rw [Option.map_map]
    rfl
  have temp : (s.temp.map fun x => ("temp",Json.ofBinary64 x)) = (s.temp.map .ofBinary64).map ("temp",·) := by
    rw [Option.map_map]
    rfl
  have free : (s.ramFree.map fun n => ("ram_free",Json.int n.toInt)) =
      (s.ramFree.map fun n => .int n.toInt).map ("ram_free",·) := by
    rw [Option.map_map]
    rfl
  funext column
  unfold fields
  rw [KeyMap.get?_ofList,List.reverse_append,List.reverse_append,lookupEntry_append,lookupEntry_append,load,temp,free,
    lookupEntry_optional,lookupEntry_optional,lookupEntry_optional,published?]
  -- The three columns have different names, so that the order does not matter.
  by_cases first : column = "cpu_load"
  · simp [first]
  · by_cases second : column = "temp"
    · simp [second]
    · simp [first,second]

theorem published?_of_finite {s : Sample} (finite : s.Finite) : s.published? = s.reading? := by
  have load : s.cpuLoad.map Json.ofBinary64 = s.cpuLoad.map .real :=
    Option.map_congr fun x member => if_pos (finite.1 x member)
  have temp : s.temp.map Json.ofBinary64 = s.temp.map .real :=
    Option.map_congr fun x member => if_pos (finite.2 x member)
  funext column
  rw [published?,reading?,load,temp]

theorem isEmpty_iff {s : Sample} : s.isEmpty ↔ s.cpuLoad = none ∧ s.temp = none ∧ s.ramFree = none := by
  simp [isEmpty,and_assoc]

theorem isEmpty_of_fields {s : Sample} (empty : s.fields.isEmpty) : s.isEmpty := by
  have nothing : s.fields = .empty := KeyMap.ext (List.isEmpty_iff.mp empty)
  have unread (column : String) : s.published? column = none := by
    rw [← get?_published,nothing]
    rfl
  have load : s.cpuLoad = none := by simpa [published?] using unread "cpu_load"
  have temp : s.temp = none := by simpa [published?] using unread "temp"
  have free : s.ramFree = none := by simpa [published?] using unread "ram_free"
  exact isEmpty_iff.mpr ⟨load,temp,free⟩

end Sample

namespace Telemetry

open Memory

variable {δ : Type}

/-- The transaction of a sample sets its columns in the one row that is committed, or adds that row. -/
theorem transaction_of_captures {s : Snapshot} {db : Database} (captured : ReconcileLoop.Captures s db [table])
    (lone : db.Lone table) (sample : Sample) : transaction sample s = db.upsert table sample.fields := by
  unfold transaction Database.upsert
  rw [captured.table_eq table List.mem_cons_self,Option.bind_some,TableSnapshot.first?_ofRows table lone.length_le]

theorem publish_isEmpty {sample : Sample} (empty : sample.isEmpty) (s : Snapshot) (store : Session) :
    publish sample s store = (SyncReport.recordSkipped {} table "no metric could be read",store) := if_pos empty

theorem publish_upserts {sample : Sample} (filled : ¬sample.isEmpty) {s : Snapshot} (store : Session)
    (captured : ReconcileLoop.Captures s store.db [table]) (lone : store.db.Lone table) :
    ∃ after row, publish sample s store = (SyncReport.recordApplied {},{store with db := after}) ∧
      after.commits = store.db.commits ++ [store.db.upsert table sample.fields] ∧ after.Lone table ∧
      Database.Upserted table sample.published? store.db after row := by
  obtain ⟨after,row,committed,logged,still,set⟩ :=
    lone.commit_upsert fun empty => filled (Sample.isEmpty_of_fields empty)
  refine ⟨after,row,?_,logged,still,sample.get?_published ▸ set⟩
  unfold publish
  rw [if_neg filled,transaction_of_captures captured lone]
  simp only [StoreClient.commit,committed]
  rfl

/-- Runs of the publisher on a store in memory. Between its ticks it may wait, the host changes, and other
clients make calls that add no telemetry row. -/
inductive Reached (measure : δ → Sample) (store : Session) (state : δ) : ReconcileLoop Session δ → Prop
  | new : Reached measure store state (.new store state)
  | tick (l) (before : Reached measure store state l) (finite : (measure l.state).Finite) :
      Reached measure store state (l.tick (domain measure)).2
  | wait (l) (before : Reached measure store state l) : Reached measure store state {l with store := l.store.notify}
  | host (l later) (before : Reached measure store state l) : Reached measure store state {l with state := later}
  | call (l call client) (before : Reached measure store state l) (spares : Call.Spares table call) :
      Reached measure store state {l with store := {l.store with db := (call.perform ⟨l.store.db,client⟩).db}}

section Ticks

variable (measure : δ → Sample) {l : ReconcileLoop Session δ}

theorem tick_failing (failing : l.store.db.failingRuns > 0) :
    ∃ e, l.tick (domain measure) = (.failed e,{l with store := l.store.refused}) :=
  ⟨_,ReconcileLoop.tick_refused _ l (l.store.run_refused failing)⟩

theorem tick_working (lone : l.store.db.Lone table) (working : ¬l.store.db.failingRuns > 0) :
    ∃ s, ReconcileLoop.Captures s l.store.db [table] ∧
      l.tick (domain measure) = (.synced (publish (measure l.state) s l.store.current).1,
        ⟨(publish (measure l.state) s l.store.current).2,l.state,some l.store.db.version⟩) := by
  generalize ticked : l.tick (domain measure) = outcome
  cases ticked ▸ ReconcileLoop.tick_cases (domain measure) l with
  | refused e failing => exact absurd failing working
  | idle _ _ quiet => cases quiet
  | missing e absent =>
    obtain ⟨name,member,missing⟩ := absent
    exact absurd (List.mem_singleton.mp member ▸ lone.present) missing
  | synced s captured => exact ⟨s,captured,rfl⟩

theorem tick_isEmpty (lone : l.store.db.Lone table) (working : ¬l.store.db.failingRuns > 0)
    (empty : (measure l.state).isEmpty) : (l.tick (domain measure)).2.store.db = l.store.db := by
  obtain ⟨s,_,ticked⟩ := tick_working measure lone working
  rw [ticked,publish_isEmpty empty]
  rfl

theorem tick_upserts (lone : l.store.db.Lone table) (working : ¬l.store.db.failingRuns > 0)
    (filled : ¬(measure l.state).isEmpty) :
    ∃ after row, (l.tick (domain measure)).1 = .synced (SyncReport.recordApplied {}) ∧
      (l.tick (domain measure)).2.store.db = after ∧
      after.commits = l.store.db.commits ++ [l.store.db.upsert table (measure l.state).fields] ∧ after.Lone table ∧
      Database.Upserted table (measure l.state).published? l.store.db after row := by
  obtain ⟨s,captured,ticked⟩ := tick_working measure lone working
  obtain ⟨after,row,published,rest⟩ := publish_upserts filled l.store.current captured lone
  rw [ticked,published]
  exact ⟨after,row,rfl,rfl,rest⟩

theorem tick_filled (lone : l.store.db.Lone table) (working : ¬l.store.db.failingRuns > 0)
    (finite : (measure l.state).Finite) (filled : ¬(measure l.state).isEmpty) :
    ∃ after row, (l.tick (domain measure)).1 = .synced (SyncReport.recordApplied {}) ∧
      (l.tick (domain measure)).2.store.db = after ∧
      after.commits = l.store.db.commits ++ [l.store.db.upsert table (measure l.state).fields] ∧ after.Lone table ∧
      Database.Upserted table (measure l.state).reading? l.store.db after row := by
  rw [← Sample.published?_of_finite finite]
  exact tick_upserts measure lone working filled

theorem lone_tick (lone : l.store.db.Lone table) (finite : (measure l.state).Finite) :
    (l.tick (domain measure)).2.store.db.Lone table := by
  by_cases failing : l.store.db.failingRuns > 0
  · obtain ⟨e,ticked⟩ := tick_failing measure failing
    rw [ticked]
    exact ⟨lone.present,lone.length_le,lone.free⟩
  · by_cases empty : (measure l.state).isEmpty
    · rwa [tick_isEmpty measure lone failing empty]
    · obtain ⟨after,row,_,rfl,_,still,_⟩ := tick_filled measure lone failing finite empty
      exact still

end Ticks

theorem lone_of_reached {measure : δ → Sample} {store : Session} {state : δ} (start : store.db.Lone table)
    {l : ReconcileLoop Session δ} (reached : Reached measure store state l) : l.store.db.Lone table := by
  induction reached with
  | new => exact start
  | tick l _ finite ih => exact lone_tick measure ih finite
  | wait l _ ih => exact ih
  | host l later _ ih => exact ih
  | call l call client _ spares ih => exact ih.of_spared (Call.spared spares ⟨l.store.db,client⟩)

/-- The store never holds more than one telemetry row. A tick that has a reading and a store that runs leaves
one row, the one that was there if any, where the readings are set and all else is as it was. A tick whose run
fails submits nothing and changes nothing but the failures that are left, and one without a reading changes
nothing at all. -/
theorem one_row_is_kept {measure : δ → Sample} {store : Session} {state : δ} (start : store.db.Lone table)
    {l : ReconcileLoop Session δ} (reached : Reached measure store state l) :
    (l.store.db.rows table).length ≤ 1 ∧
    (l.store.db.failingRuns > 0 →
      ∃ e, l.tick (domain measure) = (.failed e,{l with store := l.store.refused})) ∧
    (¬l.store.db.failingRuns > 0 → (measure l.state).isEmpty →
      (l.tick (domain measure)).2.store.db = l.store.db) ∧
    (¬l.store.db.failingRuns > 0 → (measure l.state).Finite → ¬(measure l.state).isEmpty →
      ∃ row t, (l.tick (domain measure)).1 = .synced (SyncReport.recordApplied {}) ∧
        (l.tick (domain measure)).2.store.db.commits = l.store.db.commits ++ [t] ∧
        Database.Upserted table (measure l.state).reading? l.store.db (l.tick (domain measure)).2.store.db row) := by
  have lone := lone_of_reached start reached
  refine ⟨lone.length_le,tick_failing measure,tick_isEmpty measure lone,fun working finite filled => ?_⟩
  obtain ⟨after,row,report,rfl,logged,_,set⟩ := tick_filled measure lone working finite filled
  exact ⟨row,_,report,logged,set⟩

def stocked : Session := Call.perform (.insert "Telemetry" (.single "temp" (.int 51))) (.new ["Telemetry"])

def failingOnce : ReconcileLoop Session Sample :=
  {ReconcileLoop.new stocked {ramFree := some 2048} with
    store := {stocked with db := (Call.perform (.failRuns 1) ⟨stocked.db,stocked.client⟩).db}}

/-- The run has failed, and another client has set one more column of the row. -/
def annotated : ReconcileLoop Session Sample :=
  let after := (failingOnce.tick (domain id)).2
  let note : Call := .update "Telemetry" (rowId 1) (.single "note" (.text "kept"))
  {after with store := {after.store with db := (note.perform ⟨after.store.db,stocked.client⟩).db}}

theorem note_and_temperature_are_kept : stocked.db.Lone table ∧
    Reached id stocked {ramFree := some 2048} annotated ∧ ¬annotated.store.db.failingRuns > 0 ∧
    ∃ row t, (annotated.tick (domain id)).2.store.db.commits = [t] ∧
      (annotated.tick (domain id)).2.store.db.rows "Telemetry" = [row] ∧ row.id = rowId 1 ∧
      row.fields.get? "ram_free" = some (.int 2048) ∧ row.fields.get? "temp" = some (.int 51) ∧
      row.fields.get? "note" = some (.text "kept") := by
  have start : stocked.db.Lone table := ⟨by decide +kernel,by decide +kernel,rfl⟩
  have finite : Sample.Finite {ramFree := some 2048} := by simp [Sample.Finite]
  have reached : Reached id stocked {ramFree := some 2048} annotated :=
    .call _ _ _ (.tick failingOnce (.call _ _ _ .new trivial) finite) trivial
  have working : ¬annotated.store.db.failingRuns > 0 := by decide +kernel
  have rows : annotated.store.db.rows table =
      [⟨rowId 1,.ofList [("note",.text "kept"),("temp",.int 51)]⟩] := by decide +kernel
  obtain ⟨row,t,_,logged,set⟩ := (one_row_is_kept start reached).2.2.2 working finite (by decide)
  have columns := set.columns
  rw [rows] at columns
  refine ⟨start,reached,working,row,t,logged,set.rows_eq,set.same_row _ (rows ▸ List.mem_cons_self),?_,?_,?_⟩
  · rw [columns]
    decide +kernel
  · rw [columns]
    decide +kernel
  · rw [columns]
    decide +kernel

end Telemetry

end Hostkeeper
