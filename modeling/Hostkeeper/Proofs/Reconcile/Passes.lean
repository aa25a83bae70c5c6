import Hostkeeper.Proofs.Reconcile.Tick
import Hostkeeper.Proofs.Store.Calls
import Hostkeeper.Rehearsal.Probe

/-! No change is skipped over by a loop on a store in memory. The domain is any that acts on the
store only as clients can, inside its passes as well; between ticks any clients make any calls.
The passes are recorded beside the domain's own state. -/
namespace Hostkeeper.ReconcileLoop

open Memory

variable {δ : Type}

/-- What a domain was handed in one pass, and the database as it was committed at that moment. -/
structure Pass where
  snapshot : Snapshot
  db : Database

/-- The domain with a record of its passes, oldest first. -/
def recorded (domain : Domain Session δ) : Domain Session (δ × List Pass) where
  tables := domain.tables
  everyTick := domain.everyTick
  sync snapshot state store :=
    let (report,next,after) := domain.sync snapshot state.1 store
    (report,(next,state.2 ++ [⟨snapshot,store.db⟩]),after)

def unrecorded (l : ReconcileLoop Session (δ × List Pass)) : ReconcileLoop Session δ :=
  ⟨l.store,l.state.1,l.lastVersion⟩

theorem tick_unrecorded (domain : Domain Session δ) (l : ReconcileLoop Session (δ × List Pass)) :
    l.unrecorded.tick domain = ((l.tick (recorded domain)).1,(l.tick (recorded domain)).2.unrecorded) := by
  rcases run : StoreClient.run l.store with ⟨e | _,store⟩
  · rw [tick_refused domain l.unrecorded run,tick_refused (recorded domain) l run]
    rfl
  · by_cases idle : IsIdle domain l.lastVersion store
    · rw [tick_idle domain l.unrecorded run idle,tick_idle (recorded domain) l run idle]
      rfl
    · cases taken : snapshot store (StoreClient.version store) domain.tables with
      | error e =>
        rw [tick_missing domain l.unrecorded run idle taken,tick_missing (recorded domain) l run idle taken]
        rfl
      | ok s =>
        rw [tick_synced domain l.unrecorded run idle taken,tick_synced (recorded domain) l run idle taken]
        rfl

/-- Passes touch the store only by calls of clients: of the domain's own, of others meanwhile. -/
def CallsOnly (domain : Domain Session δ) : Prop :=
  ∀ snapshot state store, Steps store (domain.sync snapshot state store).2.2

/-- The states of a loop: between ticks clients make calls and the domain's owner may change it. -/
inductive Reached (domain : Domain Session δ) (store : Session) (state : δ) :
    ReconcileLoop Session (δ × List Pass) → Prop
  | new : Reached domain store state (.new store (state,[]))
  | tick (l) (before : Reached domain store state l) :
      Reached domain store state (l.tick (recorded domain)).2
  | call (l after) (before : Reached domain store state l) (step : Step l.store after) :
      Reached domain store state {l with store := after}
  | owner (l next) (before : Reached domain store state l) :
      Reached domain store state {l with state := (next,l.state.2)}

/-- The last version, if there is one, is that of the last pass; its tables were captured then, and
they are still the committed ones if the version has not moved since. -/
def Remembers (tables : List String) (l : ReconcileLoop Session (δ × List Pass)) : Prop :=
  ∀ version, l.lastVersion = some version → ∃ pass, l.state.2.getLast? = some pass ∧
    pass.db.version = version ∧ Captures pass.snapshot pass.db tables ∧ pass.db.Since l.store.db

theorem Remembers.later {tables : List String} {l m : ReconcileLoop Session (δ × List Pass)}
    (remembers : Remembers tables l) (passes : m.state.2 = l.state.2)
    (version : m.lastVersion = l.lastVersion) (since : l.store.db.Since m.store.db) : Remembers tables m := by
  intro v seen
  obtain ⟨pass,last,same,captured,before⟩ := remembers v (version ▸ seen)
  exact ⟨pass,passes ▸ last,same,captured,before.trans since⟩

theorem remembers_tick {domain : Domain Session δ} (calls : CallsOnly domain)
    {l : ReconcileLoop Session (δ × List Pass)} (remembers : Remembers domain.tables l) :
    Remembers domain.tables (l.tick (recorded domain)).2 := by
  cases h : l.tick (recorded domain) with
  | mk outcome after =>
    have known := tick_cases (recorded domain) l
    rw [h] at known
    cases known with
    | refused => exact remembers.later rfl rfl (.of_same rfl rfl)
    | idle => exact remembers.later rfl rfl (.refl _)
    | missing => exact remembers.later rfl rfl (.refl _)
    | synced s captured =>
      -- The pass is on record with the rows it was made from; what it did itself comes after that.
      intro version seen
      cases Option.some.inj seen
      have since : l.store.current.db.Since (domain.sync s l.state.1 l.store.current).2.2.db :=
        Steps.since (calls s l.state.1 l.store.current)
      exact ⟨⟨s,l.store.db⟩,by simp [recorded],rfl,captured,since⟩

theorem remembers_reached {domain : Domain Session δ} (calls : CallsOnly domain) {store : Session} {state : δ}
    {l : ReconcileLoop Session (δ × List Pass)} (reached : Reached domain store state l) :
    Remembers domain.tables l := by
  induction reached with
  | new => intro version seen; cases seen
  | tick l _ ih => exact remembers_tick calls ih
  | call l after _ step ih => exact ih.later rfl rfl step.since
  | owner l next _ ih => exact ih.later rfl rfl (.refl _)

def UpToDate (tables : List String) (passes : List Pass) (db : Database) : Prop :=
  ∃ pass, passes.getLast? = some pass ∧ Captures pass.snapshot pass.db tables ∧
    ∀ name ∈ tables, pass.db.tables.get? name = db.tables.get? name ∧ pass.db.rows name = db.rows name

/-- A tick that syncs makes one pass, with the rows committed when it runs and under their version.
An idle one makes none, and the rows are those of the last pass. A failed one makes none either; it
keeps the last version, and a run failed on order or a table is missing. -/
theorem tick_never_skips_a_change (domain : Domain Session δ) (calls : CallsOnly domain) (store : Session)
    (state : δ) (l : ReconcileLoop Session (δ × List Pass)) (reached : Reached domain store state l)
    (outcome : TickOutcome) (after : ReconcileLoop Session (δ × List Pass))
    (ticked : l.tick (recorded domain) = (outcome,after)) :
    l.unrecorded.tick domain = (outcome,after.unrecorded) ∧
    match outcome with
    | .synced _ => ∃ pass, after.state.2 = l.state.2 ++ [pass] ∧ pass.db = l.store.db ∧
        Captures pass.snapshot l.store.db domain.tables ∧ after.lastVersion = some l.store.db.version ∧
        UpToDate domain.tables after.state.2 l.store.db
    | .idle => after.state = l.state ∧ after.lastVersion = l.lastVersion ∧
        UpToDate domain.tables l.state.2 l.store.db
    | .failed _ => after.state = l.state ∧ after.lastVersion = l.lastVersion ∧
        (l.store.db.failingRuns > 0 ∨ ∃ name ∈ domain.tables, ¬l.store.db.tables.contains name) := by
  refine ⟨by rw [tick_unrecorded,ticked],?_⟩
  have known := tick_cases (recorded domain) l
  rw [ticked] at known
  cases known with
  | refused e failing => exact ⟨rfl,rfl,.inl failing⟩
  | idle _ seen =>
    obtain ⟨pass,last,version,captured,since⟩ := remembers_reached calls reached _ seen
    have tables : l.store.db.tables = pass.db.tables := since.tables_eq version.symm
    refine ⟨rfl,rfl,pass,last,captured,fun name _ => ?_⟩
    simp only [Database.rows,Database.rowsOf,tables,and_self]
  | missing e absent => exact ⟨rfl,rfl,.inr absent⟩
  | synced s captured =>
    exact ⟨⟨s,l.store.db⟩,rfl,rfl,captured,rfl,⟨s,l.store.db⟩,by simp [recorded],captured,fun _ _ => ⟨rfl,rfl⟩⟩

theorem callsOnly_probe (p : Rehearsal.Probe) (time : Nat) : CallsOnly (p.domain time) := by
  intro snapshot state store
  unfold Rehearsal.Probe.domain
  dsimp only
  split
  · exact .refl
  next t _ => exact .single (.own (.commit t) store)

/-- A domain that adds a row to the table it reads in every pass. -/
def publisher : Domain Session (List Rehearsal.Note) :=
  Rehearsal.Probe.domain ⟨["Interface"],false,[],[],some ⟨[.insert "Interface" .empty]⟩⟩ 0

/-- Two passes of a publisher, the second one because of what the first one committed: it is handed the row. -/
theorem publisher_sees_its_own_row :
    let store := Session.new ["Interface"]
    let first := ((new store (([] : List Rehearsal.Note),[])).tick (recorded publisher)).2
    CallsOnly publisher ∧ Reached publisher store [] first ∧
    ∃ after, first.tick (recorded publisher) = (.synced {},after) ∧
    ∃ pass, after.state.2 = first.state.2 ++ [pass] ∧ pass.db.version = 1 ∧
      Captures pass.snapshot first.store.db ["Interface"] ∧
    ∃ table, pass.snapshot.table? "Interface" = some table ∧
      table.get? (rowId 1) = some ⟨rowId 1,.empty⟩ ∧ ∀ key, key ≠ rowId 1 → table.get? key = none := by
  intro store first
  have calls : CallsOnly publisher := callsOnly_probe _ 0
  have reached : Reached publisher store [] first := .tick _ .new
  have committed : first.store.db.tables.get? "Interface" = some (.single (rowId 1) .empty) := by decide +kernel
  obtain ⟨_,pass,passes,db,captured,_⟩ :=
    tick_never_skips_a_change publisher calls store [] first reached (.synced {}) _ rfl
  obtain ⟨contents,table,held,found,_,shown⟩ := captured.shows "Interface" List.mem_cons_self
  obtain rfl := Option.some.inj (committed.symm.trans held)
  have row := TableSnapshot.Shows.get?_single ⟨rowId 1,.empty⟩ shown
  refine ⟨calls,reached,_,rfl,pass,passes,by rw [db]; rfl,captured,table,found,?_,fun key other => ?_⟩
  · exact (row _).trans (if_pos rfl)
  · exact (row key).trans (if_neg other)

end Hostkeeper.ReconcileLoop
