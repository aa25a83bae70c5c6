import Hostkeeper.Reconcile.Report
import Hostkeeper.Store.Client

/-! The reconciliation loop of one domain. A tick advances the store; when the version has moved since the last
pass, or the domain asks for every tick, the domain's tables are handed to it as one snapshot. -/
namespace Hostkeeper

structure Snapshot where
  version : Nat
  tables : KeyMap TableSnapshot

namespace Snapshot

def new (version : Nat) : Snapshot := ⟨version,.empty⟩

def withTable (s : Snapshot) (table : TableSnapshot) : Snapshot :=
  {s with tables := s.tables.insert table.table table}

def table? (s : Snapshot) (name : String) : Option TableSnapshot := s.tables.get? name

/-- The rows of a record's table, read and rejected; none if the table is not in the snapshot. -/
def decode {α : Type} [Record α] (s : Snapshot) : Decoded α :=
  match s.table? (Record.table α).name with
  | some table => table.decode
  | none => ⟨[],[]⟩

def typed (α : Type) [Record α] (s : Snapshot) : List (TypedRow α) := (decode (α := α) s).rows

def singleton (α : Type) [Record α] (s : Snapshot) : Option (TypedRow α) := (s.typed α).head?

end Snapshot

/-- A part of the host that is kept as the store wants it: `δ` is its state together with the host it acts
on, `σ` the store client it may publish through. -/
structure Domain (σ δ : Type) where
  tables : List String
  everyTick : Bool
  sync : Snapshot → δ → σ → SyncReport × δ × σ

inductive TickOutcome where
  | idle
  | synced (report : SyncReport)
  | failed (error : StoreError)

def tickFailureMessage (error : StoreError) : String := "store error: " ++ error.message

structure ReconcileLoop (σ δ : Type) where
  store : σ
  state : δ
  lastVersion : Option Nat

namespace ReconcileLoop

variable {σ δ : Type} [StoreClient σ]

def new (store : σ) (state : δ) : ReconcileLoop σ δ := ⟨store,state,none⟩

/-- A snapshot of the given tables; the first one that is missing decides. -/
def snapshot (store : σ) (version : Nat) (tables : List String) : Except StoreError Snapshot :=
  tables.foldlM (fun s name => (StoreClient.table store name).map s.withTable) (.new version)

def tick (domain : Domain σ δ) (l : ReconcileLoop σ δ) : TickOutcome × ReconcileLoop σ δ :=
  match StoreClient.run l.store with
  | (.error e,store) => (.failed e,{l with store})
  | (.ok (),store) =>
    let version := StoreClient.version store
    if l.lastVersion = some version ∧ domain.everyTick = false then (.idle,{l with store})
    else
      match snapshot store version domain.tables with
      | .error e => (.failed e,{l with store})
      | .ok s =>
        let (report,state,store) := domain.sync s l.state store
        (.synced report,⟨store,state,some version⟩)

end ReconcileLoop

end Hostkeeper
