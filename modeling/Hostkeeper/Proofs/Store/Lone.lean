import Hostkeeper.Proofs.Store.Commit
import Hostkeeper.Proofs.Store.Snapshot
import Mathlib.Data.List.Perm.Subperm

/-! Tables of one row at most. Only an insertion adds a row to a table, so that it stays one while
clients change the row, delete it, or do anything to other tables. -/
namespace Hostkeeper

theorem TableSnapshot.first?_ofRows (name : String) {rows : List Row} (lone : rows.length ≤ 1) :
    (ofRows name rows).first? = rows.head? := by
  match rows with
  | [] => rfl
  | [_] => rfl

namespace Memory

theorem contains_dropRow (tables : Tables) (table : String) (id : RowId) (name : String) :
    (dropRow tables table id).contains name = tables.contains name := KeyMap.contains_modify ..

namespace Database

variable {table : String}

theorem row?_eq_get?_rowsOf (db : Database) (id : RowId) : row? db.tables table id = (db.rowsOf table).get? id := by
  unfold row? rowsOf
  cases db.tables.get? table <;> rfl

theorem row?_eq_find?_rows (db : Database) (id : RowId) :
    row? db.tables table id = ((db.rows table).find? (·.id = id)).map (·.fields) := by
  rw [row?_eq_get?_rowsOf,rows,KeyMap.get?]
  induction (db.rowsOf table).entries with
  | nil => rfl
  | cons e rest ih =>
    rw [lookupEntry,List.map_cons,List.find?_cons]
    by_cases same : id = e.1
    · simp [same]
    · simp [same,Ne.symm same,ih]

theorem rows_eq_single {db : Database} {row : Row}
    (only : ∀ id, row? db.tables table id = if id = row.id then some row.fields else none) : db.rows table = [row] := by
  have alone : db.rowsOf table = .single row.id row.fields := by
    refine KeyMap.ext_get? fun id => ?_
    rw [← row?_eq_get?_rowsOf,only,KeyMap.single,KeyMap.get?_insert,KeyMap.get?_empty]
  rw [rows,alone]
  rfl

/-- Nothing is added to the table from one moment to the next, and no status is forced on commits. -/
structure Spared (table : String) (before after : Database) : Prop where
  contains_eq : after.tables.contains table = before.tables.contains table
  forcedStatus_eq : after.forcedStatus = before.forcedStatus
  rows : ∀ id, (row? after.tables table id).isSome → (row? before.tables table id).isSome

theorem Spared.refl (db : Database) : Spared table db db := ⟨rfl,rfl,fun _ => id⟩

theorem Spared.trans {first second third : Database} (a : Spared table first second) (b : Spared table second third) :
    Spared table first third :=
  ⟨b.contains_eq.trans a.contains_eq,b.forcedStatus_eq.trans a.forcedStatus_eq,
    fun id held => a.rows id (b.rows id held)⟩

theorem Spared.length_rows_le {before after : Database} (spared : Spared table before after) :
    (after.rows table).length ≤ (before.rows table).length := by
  have keys : (after.rowsOf table).keys ⊆ (before.rowsOf table).keys := fun id member => by
    rw [KeyMap.mem_keys_iff,← row?_eq_get?_rowsOf] at member ⊢
    exact spared.rows id member
  simpa [Database.rows,KeyMap.keys] using (List.subperm_of_subset (after.rowsOf table).keys_nodup keys).length_le

theorem spared_addRow (db : Database) {name : String} (other : table ≠ name) (fields : Fields) :
    Spared table db (db.addRow name fields) where
  contains_eq := by
    change (putRow db.tables name (rowId (db.lastId + 1)) fields).contains table = _
    rw [contains_putRow,decide_eq_false other,Bool.false_or]
  forcedStatus_eq := rfl
  rows id held := by
    change (row? (putRow db.tables name (rowId (db.lastId + 1)) fields) table id).isSome at held
    rwa [row?_putRow,if_neg fun both => other both.1] at held

theorem spared_setColumns (db : Database) (name : String) (id : RowId) (fields : Fields) :
    Spared table db (db.setColumns name id fields) where
  contains_eq := contains_mergeRow db.tables name id fields table
  forcedStatus_eq := rfl
  rows i held := (isSome_row?_mergeRow db.tables name id fields table i) ▸ held

theorem spared_removeRow (db : Database) (name : String) (id : RowId) : Spared table db (db.removeRow name id).2 := by
  unfold removeRow
  split
  · refine ⟨contains_dropRow db.tables name id table,rfl,fun i held => ?_⟩
    change (row? (dropRow db.tables name id) table i).isSome at held
    rw [row?_dropRow] at held
    split at held
    · cases held
    · exact held
  · exact .refl db

theorem spared_updateRow (db : Database) (name : String) (id : RowId) (fields : Fields) :
    Spared table db (db.updateRow name id fields).2 := by
  unfold updateRow
  split
  · exact ⟨(db.spared_setColumns name id fields).contains_eq,rfl,(db.spared_setColumns name id fields).rows⟩
  · exact .refl db

theorem spared_applyWrites {writes : List Write} (spares : ∀ fields, .insert table fields ∉ writes) (db : Database) :
    Spared table db (writes.foldl applyWrite db) := by
  induction writes generalizing db with
  | nil => exact .refl db
  | cons w rest ih =>
    have head : Spared table db (db.applyWrite w) := by
      cases w with
      | insert name fields =>
        refine db.spared_addRow (fun same => ?_) fields
        exact spares fields (same ▸ List.mem_cons_self)
      | update name id fields => exact db.spared_setColumns name id fields
    exact head.trans (ih (fun fields member => spares fields (List.mem_cons_of_mem _ member)) _)

theorem spared_commit {t : Transaction} (spares : ∀ fields, .insert table fields ∉ t.writes) (db : Database) :
    Spared table db (db.commit t).2 := by
  have logged : Spared table db (db.logged t) := ⟨rfl,rfl,fun _ => id⟩
  rw [commit_eq]
  split
  · exact logged
  · split
    · exact logged
    · unfold apply
      split
      · exact logged
      · have applied := spared_applyWrites spares (db.logged t)
        exact logged.trans ⟨applied.contains_eq,applied.forcedStatus_eq,applied.rows⟩

end Database

/-- Calls that add no row to the table and force no status on commits. -/
def Call.Spares (table : String) : Call → Prop
  | .insert name _ => table ≠ name
  | .commit t => ∀ fields, .insert table fields ∉ t.writes
  | .forceStatus _ => False
  | .update .. | .remove .. | .run | .notice | .failRuns _ => True

theorem Call.spared {table : String} {call : Call} (spares : call.Spares table) (s : Session) :
    s.db.Spared table (call.perform s).db := by
  cases call with
  | insert name fields =>
    have added := s.db.spared_addRow spares fields
    exact ⟨added.contains_eq,added.forcedStatus_eq,added.rows⟩
  | update name id fields => exact s.db.spared_updateRow name id fields
  | remove name id => exact s.db.spared_removeRow name id
  | commit t => exact Database.spared_commit spares s.db
  | run =>
    change s.db.Spared table s.run.2.db
    unfold Session.run
    split <;> exact ⟨rfl,rfl,fun _ => id⟩
  | notice => exact .refl _
  | failRuns count => exact ⟨rfl,rfl,fun _ => id⟩
  | forceStatus status => exact spares.elim

/-- A table is there and has one row at most, and commits are answered for what they write. -/
structure Database.Lone (table : String) (db : Database) : Prop where
  present : db.tables.contains table
  length_le : (db.rows table).length ≤ 1
  free : db.forcedStatus = none

theorem Database.Lone.of_spared {table : String} {before after : Database} (lone : before.Lone table)
    (spared : before.Spared table after) : after.Lone table :=
  ⟨spared.contains_eq.trans lone.present,spared.length_rows_le.trans lone.length_le,
    spared.forcedStatus_eq.trans lone.free⟩

/-- What sets columns in the one row of a table, or adds the row with them. -/
def Database.upsert (db : Database) (table : String) (fields : Fields) : Transaction :=
  ⟨[.upsert table ((db.rows table).head?.map (·.id)) fields]⟩

/-- The table has one row. It is the row that was there, if any, where some columns are set anew. -/
structure Database.Upserted (table : String) (set? : String → Option Json) (before after : Database)
    (row : Row) : Prop where
  rows_eq : after.rows table = [row]
  same_row : ∀ old ∈ before.rows table, row.id = old.id
  columns : ∀ column, row.fields.get? column =
    (set? column).or ((before.rows table).head?.bind (·.fields.get? column))

namespace Database

variable {table : String} {db : Database} {fields : Fields}

theorem upserted_addRow (empty : db.rows table = []) :
    Upserted table fields.get? db (db.addRow table fields) ⟨rowId (db.lastId + 1),fields⟩ where
  rows_eq := by
    refine rows_eq_single fun id => ?_
    change row? (putRow db.tables table (rowId (db.lastId + 1)) fields) table id = _
    rw [row?_putRow,row?_eq_find?_rows,empty]
    simp
  same_row := by simp [empty]
  columns := by simp [empty]

theorem upserted_setColumns {row : Row} (one : db.rows table = [row]) :
    Upserted table fields.get? db (db.setColumns table row.id fields) ⟨row.id,row.fields.merge fields⟩ where
  rows_eq := by
    refine rows_eq_single fun id => ?_
    change row? (mergeRow db.tables table row.id fields) table id = _
    rw [row?_mergeRow,row?_eq_find?_rows,row?_eq_find?_rows,one]
    by_cases same : id = row.id
    · simp [same]
    · simp [same,Ne.symm same]
  same_row := by simp [one]
  columns := by simp [one,KeyMap.get?_merge]

theorem commit_write (free : db.forcedStatus = none) {w : Write} (fits : db.Fits w) (writes : ¬w.isEmpty) :
    db.commit ⟨[w]⟩ = (.success,((db.logged ⟨[w]⟩).applyWrite w).bump) := by
  have nonempty : ¬Transaction.isEmpty ⟨[w]⟩ := by simpa [Transaction.isEmpty] using writes
  have fit : ∀ x ∈ [w], (db.logged ⟨[w]⟩).Fits x := by
    intro x member
    obtain rfl := List.mem_singleton.mp member
    exact fits
  rw [commit_free free,if_neg nonempty,apply_fitting _ fit]
  rfl

theorem Lone.exists_write (lone : db.Lone table) (filled : ¬fields.isEmpty) : ∃ w row,
    db.upsert table fields = ⟨[w]⟩ ∧ db.Fits w ∧ ¬w.isEmpty ∧ Upserted table fields.get? db (db.applyWrite w) row := by
  have length := lone.length_le
  unfold upsert
  match rows : db.rows table with
  | [] => exact ⟨.insert table fields,_,rfl,lone.present,by simp [Write.isEmpty],upserted_addRow rows⟩
  | [row] =>
    refine ⟨.update table row.id fields,_,rfl,?_,filled,upserted_setColumns rows⟩
    change (row? db.tables table row.id).isSome
    rw [row?_eq_find?_rows,rows]
    simp
  | _ :: _ :: _ =>
    rw [rows] at length
    simp at length

theorem Lone.commit_upsert (lone : db.Lone table) (filled : ¬fields.isEmpty) :
    ∃ after row, db.commit (db.upsert table fields) = (.success,after) ∧
      after.commits = db.commits ++ [db.upsert table fields] ∧ after.Lone table ∧
      Upserted table fields.get? db after row := by
  obtain ⟨w,row,only,fits,writes,set⟩ := lone.exists_write filled
  have present : (db.applyWrite w).tables.contains table := Fits.applyWrite (w := .insert table fields) lone.present w
  rw [only]
  refine ⟨_,row,commit_write lone.free fits writes,?_⟩
  rw [show (db.logged ⟨[w]⟩).applyWrite w = (db.applyWrite w).logged ⟨[w]⟩ by cases w <;> rfl]
  refine ⟨?_,⟨present,?_,?_⟩,⟨set.rows_eq,set.same_row,set.columns⟩⟩
  · cases w <;> rfl
  · exact (congrArg List.length set.rows_eq).le
  · cases w <;> exact lone.free

end Database

end Memory

end Hostkeeper
