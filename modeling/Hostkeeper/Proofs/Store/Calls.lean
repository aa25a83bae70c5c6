import Hostkeeper.Store.Memory
import Mathlib.Logic.Relation

/-! Calls of clients on a store in memory. No call takes the version back, and a call that leaves
the version as it was leaves the tables as they were. -/
namespace Hostkeeper.Memory

/-- A call of a client: a write of its own, a commit, a run, the end of a wait, or an order to
fail runs or commits. -/
inductive Call where
  | insert (table : String) (fields : Fields)
  | update (table : String) (id : RowId) (fields : Fields)
  | remove (table : String) (id : RowId)
  | commit (t : Transaction)
  | run
  | notice
  | failRuns (count : Nat)
  | forceStatus (status : CommitStatus)

def Call.perform : Call → Session → Session
  | .insert table fields, s => {s with db := (s.db.insertRow table fields).2}
  | .update table id fields, s => {s with db := (s.db.updateRow table id fields).2}
  | .remove table id, s => {s with db := (s.db.removeRow table id).2}
  | .commit t, s => (StoreClient.commit t s).2
  | .run, s => s.run.2
  | .notice, s => s.notify
  | .failRuns count, s => {s with db := s.db.failNextRuns count}
  | .forceStatus status, s => {s with db := s.db.forceCommitStatus status}

/-- A call as one session sees it: its own, or one of another client, whatever that client holds. -/
inductive Step : Session → Session → Prop
  | own (call : Call) (s : Session) : Step s (call.perform s)
  | other (call : Call) (client : Client) (s : Session) :
      Step s {s with db := (call.perform ⟨s.db,client⟩).db}

/-- Any number of calls by any clients, in any order. -/
abbrev Steps : Session → Session → Prop := Relation.ReflTransGen Step

namespace Database

/-- A later moment of a database: its version moves whenever its tables do. -/
structure Since (before after : Database) : Prop where
  version_le : before.version ≤ after.version
  tables_eq : after.version = before.version → after.tables = before.tables

theorem Since.refl (db : Database) : Since db db := ⟨Nat.le_refl _,fun _ => rfl⟩

theorem Since.trans {first second third : Database} (a : Since first second) (b : Since second third) :
    Since first third := by
  refine ⟨Nat.le_trans a.version_le b.version_le,fun same => ?_⟩
  have lower := a.version_le
  have upper := b.version_le
  exact (b.tables_eq (by omega)).trans (a.tables_eq (by omega))

theorem Since.of_bump {before after : Database} (bumped : after.version = before.version + 1) :
    Since before after := ⟨by omega,fun same => by omega⟩

theorem Since.of_same {before after : Database} (version : after.version = before.version)
    (tables : after.tables = before.tables) : Since before after := ⟨by omega,fun _ => tables⟩

theorem version_applyWrite (db : Database) (w : Write) : (db.applyWrite w).version = db.version := by
  cases w <;> rfl

theorem version_applyWrites (writes : List Write) (db : Database) :
    (writes.foldl applyWrite db).version = db.version := by
  induction writes generalizing db with
  | nil => rfl
  | cons w rest ih => exact (ih (db.applyWrite w)).trans (version_applyWrite db w)

theorem since_insertRow (db : Database) (table : String) (fields : Fields) :
    Since db (db.insertRow table fields).2 := .of_bump rfl

theorem since_updateRow (db : Database) (table : String) (id : RowId) (fields : Fields) :
    Since db (db.updateRow table id fields).2 := by
  unfold updateRow
  split
  · exact .of_bump rfl
  · exact .refl db

theorem since_removeRow (db : Database) (table : String) (id : RowId) :
    Since db (db.removeRow table id).2 := by
  unfold removeRow
  split
  · exact .of_bump rfl
  · exact .refl db

theorem since_apply (db : Database) (t : Transaction) : Since db (db.apply t).2 := by
  unfold apply
  split
  · exact .refl db
  · exact .of_bump (congrArg (· + 1) (version_applyWrites t.writes db))

theorem since_commit (db : Database) (t : Transaction) : Since db (db.commit t).2 := by
  have logged : Since db {db with commits := db.commits ++ [t]} := .of_same rfl rfl
  unfold commit
  dsimp only
  split
  · exact logged
  · split
    · exact logged
    · exact logged.trans (since_apply _ t)

end Database

theorem Session.since_run (s : Session) : s.db.Since s.run.2.db := by
  unfold Session.run
  split
  · exact .of_same rfl rfl
  · exact .refl _

theorem Call.since (call : Call) (s : Session) : s.db.Since (call.perform s).db := by
  cases call with
  | insert table fields => exact s.db.since_insertRow table fields
  | update table id fields => exact s.db.since_updateRow table id fields
  | remove table id => exact s.db.since_removeRow table id
  | commit t => exact s.db.since_commit t
  | run => exact s.since_run
  | notice => exact .refl _
  | failRuns count => exact .of_same rfl rfl
  | forceStatus status => exact .of_same rfl rfl

theorem Step.since {before after : Session} (step : Step before after) : before.db.Since after.db := by
  cases step with
  | own call => exact call.since before
  | other call client => exact call.since ⟨before.db,client⟩

theorem Steps.since {before after : Session} (steps : Steps before after) : before.db.Since after.db := by
  induction steps with
  | refl => exact .refl _
  | tail _ last ih => exact ih.trans last.since

end Hostkeeper.Memory
