import Hostkeeper.Reconcile.Loop

/-! A domain that keeps nothing on the host: it notes every snapshot that it is handed, with the time, and says of
each interface what it was told to say. With a transaction it also commits that in every pass. -/
namespace Hostkeeper.Rehearsal

structure Note where
  version : Nat
  time : Nat
  keys : List String
  tables : List (String × Option Nat)
  unlisted : Bool
  commit : Option (Except StoreError CommitStatus)

structure Probe where
  tables : List String
  everyTick : Bool
  failing : List String
  skipped : List String
  transaction : Option Transaction

namespace Probe

def report (p : Probe) (keys : List String) : SyncReport :=
  keys.foldl (fun r key =>
    if p.failing.contains key then r.recordFailure key "link not found"
    else if p.skipped.contains key then r.recordSkipped key "left alone"
    else r.recordApplied) {}

/-- The domain at a time, with its notes as its state. -/
def domain {σ : Type} [StoreClient σ] (p : Probe) (time : Nat) : Domain σ (List Note) where
  tables := p.tables
  everyTick := p.everyTick
  sync s notes store :=
    let keys := (s.typed InterfaceSpec).map (·.key)
    let note : Note :=
      {version := s.version, time, keys
       tables := p.tables.map fun t => (t,(s.table? t).map (·.rows.size))
       unlisted := (s.table? "Unlisted").isSome
       commit := none}
    match p.transaction with
    | none => (p.report keys,notes ++ [note],store)
    | some t =>
      let (status,store) := StoreClient.commit t store
      (p.report keys,notes ++ [{note with commit := some status}],store)

end Probe

end Hostkeeper.Rehearsal
