import Hostkeeper.Proofs.KeyMap
import Hostkeeper.Proofs.Store.Calls
import Mathlib.Tactic.IntervalCases

/-! Single rows of a store and the ids they stand under. Every operation is told by the rows it
leaves, and every id in use is one that the counter of the store has been at, so that the next id
has never been in use. -/
namespace Hostkeeper.Memory

/-- Rows under their ids, under their tables. -/
abbrev Tables := KeyMap (KeyMap Fields)

def row? (tables : Tables) (table : String) (id : RowId) : Option Fields := (tables.get? table).bind (·.get? id)

/-- Whether some table has a row of this id. -/
def Held (tables : Tables) (id : RowId) : Prop := ∃ table, (row? tables table id).isSome

section Lookups

def putRow (tables : Tables) (table : String) (id : RowId) (fields : Fields) : Tables :=
  tables.insert table (((tables.get? table).getD .empty).insert id fields)

def mergeRow (tables : Tables) (table : String) (id : RowId) (fields : Fields) : Tables :=
  tables.modify table (·.modify id (·.merge fields))

def dropRow (tables : Tables) (table : String) (id : RowId) : Tables := tables.modify table (·.erase id)

variable (tables : Tables) (table : String) (id : RowId) (fields : Fields)

theorem row?_putRow (name : String) (i : RowId) : row? (putRow tables table id fields) name i =
    if name = table ∧ i = id then some fields else row? tables name i := by
  rw [row?,putRow,KeyMap.get?_insert]
  by_cases same : name = table
  · subst same
    rw [if_pos rfl,Option.bind_some,KeyMap.get?_insert,row?]
    cases tables.get? name <;> simp
  · rw [if_neg same,if_neg fun both => same both.1,row?]

theorem row?_mergeRow (name : String) (i : RowId) : row? (mergeRow tables table id fields) name i =
    if name = table ∧ i = id then (row? tables table id).map (·.merge fields) else row? tables name i := by
  rw [row?,mergeRow,KeyMap.get?_modify]
  by_cases same : name = table
  · subst same
    rw [if_pos rfl,row?,row?]
    cases tables.get? name <;> simp [KeyMap.get?_modify]
  · rw [if_neg same,if_neg fun both => same both.1,row?]

theorem row?_dropRow (name : String) (i : RowId) : row? (dropRow tables table id) name i =
    if name = table ∧ i = id then none else row? tables name i := by
  rw [row?,dropRow,KeyMap.get?_modify]
  by_cases same : name = table
  · subst same
    rw [if_pos rfl,row?]
    cases tables.get? name <;> simp
  · rw [if_neg same,if_neg fun both => same both.1,row?]

theorem contains_putRow (name : String) :
    (putRow tables table id fields).contains name = (decide (name = table) || tables.contains name) :=
  KeyMap.contains_insert ..

theorem contains_mergeRow (name : String) :
    (mergeRow tables table id fields).contains name = tables.contains name := KeyMap.contains_modify ..

theorem isSome_row?_mergeRow (name : String) (i : RowId) :
    (row? (mergeRow tables table id fields) name i).isSome = (row? tables name i).isSome := by
  rw [row?_mergeRow]
  split
  next same => rw [Option.isSome_map,same.1,same.2]
  next => rfl

/-- Setting columns that change nothing, of a row or of none, changes no table. -/
theorem mergeRow_eq_self (unchanged : ∀ row, row? tables table id = some row → row.merge fields = row) :
    mergeRow tables table id fields = tables := by
  refine KeyMap.modify_eq_self _ _ _ fun rows held => KeyMap.modify_eq_self _ _ _ fun row found => unchanged row ?_
  rw [row?,held]
  exact found

end Lookups

theorem Database.hasRow_eq (db : Database) (table : String) (id : RowId) :
    db.hasRow table id = (row? db.tables table id).isSome := by
  unfold hasRow rowsOf row? KeyMap.contains
  cases db.tables.get? table <;> rfl

section Identifiers

private def digitValue (c : Char) : Nat := if c.isDigit then c.toNat - 48 else c.toNat - 87

/-- The number that hexadecimal digits stand for. -/
private def hexNumber (digits : List Char) : Nat := digits.foldl (fun n c => n * 16 + digitValue c) 0

private theorem hexNumber_append (digits : List Char) (c : Char) :
    hexNumber (digits ++ [c]) = hexNumber digits * 16 + digitValue c := by
  rw [hexNumber,List.foldl_append]
  rfl

private theorem digitValue_digitChar {d : Nat} (digit : d < 16) : digitValue d.digitChar = d := by
  interval_cases d <;> decide

private theorem hexDigits_spec (n : Nat) : hexNumber (Nat.toDigits 16 n) = n ∧ '-' ∉ Nat.toDigits 16 n := by
  induction n using Nat.strong_induction_on with
  | _ n ih =>
    rw [Nat.toDigits_eq_if (by decide)]
    split
    next small => exact ⟨by simpa [hexNumber] using digitValue_digitChar small,by simp⟩
    next large =>
      obtain ⟨front,digits⟩ := ih (n / 16) (by omega)
      rw [hexNumber_append,front,digitValue_digitChar (Nat.mod_lt n (by decide))]
      exact ⟨by omega,by simp [digits]⟩

private theorem hexNumber_paddedHex (least n : Nat) : hexNumber (Text.paddedHex least n) = n := by
  have zeros (count : Nat) : (List.replicate count '0').foldl
      (fun n c => n * 16 + digitValue c) 0 = 0 := by
    induction count with
    | zero => rfl
    | succ count ih => rw [List.replicate_succ,List.foldl_cons]; exact ih
  rw [Text.paddedHex,hexNumber,List.foldl_append,zeros]
  exact (hexDigits_spec n).1

private theorem dash_not_mem_paddedHex (least n : Nat) : '-' ∉ Text.paddedHex least n := by
  rw [Text.paddedHex,List.mem_append,List.mem_replicate]
  rintro (⟨_,zero⟩ | digit)
  · exact absurd zero (by decide)
  · exact (hexDigits_spec n).2 digit

/-- The digits before the first dash of an id give its number back. -/
theorem rowId_injective : Function.Injective rowId := by
  intro m n same
  have first (n : Nat) : (rowId n).toList.takeWhile (· ≠ '-') = Text.paddedHex 8 n := by
    rw [rowId,String.toList_ofList,List.append_assoc,List.takeWhile_append_of_pos]
    · exact List.append_nil _
    · intro c digit
      have other : c ≠ '-' := fun dash => dash_not_mem_paddedHex 8 n (dash ▸ digit)
      simpa using other
  rw [← hexNumber_paddedHex 8 m,← hexNumber_paddedHex 8 n,← first m,← first n,same]

end Identifiers

namespace Database

/-- Every id in use is one that the counter has been at. -/
def Issued (db : Database) : Prop := ∀ id, Held db.tables id → ∃ n, n ≤ db.lastId ∧ rowId n = id

/-- A later moment of a database: its counter has not gone back. -/
structure Later (before after : Database) : Prop where
  lastId_le : before.lastId ≤ after.lastId
  issued : before.Issued → after.Issued

theorem Later.refl (db : Database) : Later db db := ⟨Nat.le_refl _,id⟩

theorem Later.trans {first second third : Database} (a : Later first second) (b : Later second third) :
    Later first third := ⟨Nat.le_trans a.lastId_le b.lastId_le,b.issued ∘ a.issued⟩

theorem Later.of_held {before after : Database} (counter : after.lastId = before.lastId)
    (held : ∀ id, Held after.tables id → Held before.tables id) : Later before after :=
  ⟨counter.ge,fun issued id present => counter ▸ issued id (held id present)⟩

theorem Later.of_same {before after : Database} (counter : after.lastId = before.lastId)
    (tables : after.tables = before.tables) : Later before after :=
  .of_held counter fun _ held => tables ▸ held

theorem later_addRow (db : Database) (table : String) (fields : Fields) : Later db (db.addRow table fields) := by
  refine ⟨Nat.le_succ _,fun issued id held => ?_⟩
  obtain ⟨name,present⟩ := held
  change (row? (putRow db.tables table (rowId (db.lastId + 1)) fields) name id).isSome at present
  rw [row?_putRow] at present
  split at present
  next same => exact ⟨db.lastId + 1,Nat.le_refl _,same.2.symm⟩
  next =>
    obtain ⟨n,bound,same⟩ := issued id ⟨name,present⟩
    exact ⟨n,Nat.le_succ_of_le bound,same⟩

theorem later_setColumns (db : Database) (table : String) (id : RowId) (fields : Fields) :
    Later db (db.setColumns table id fields) := by
  refine .of_held rfl fun other held => ?_
  obtain ⟨name,present⟩ := held
  change (row? (mergeRow db.tables table id fields) name other).isSome at present
  rw [isSome_row?_mergeRow] at present
  exact ⟨name,present⟩

theorem later_applyWrites (writes : List Write) (db : Database) : Later db (writes.foldl applyWrite db) := by
  induction writes generalizing db with
  | nil => exact .refl db
  | cons w rest ih =>
    refine .trans ?_ (ih (db.applyWrite w))
    cases w with
    | insert table fields => exact db.later_addRow table fields
    | update table id fields => exact db.later_setColumns table id fields

theorem later_updateRow (db : Database) (table : String) (id : RowId) (fields : Fields) :
    Later db (db.updateRow table id fields).2 := by
  unfold updateRow
  split
  · exact (db.later_setColumns table id fields).trans (.of_same rfl rfl)
  · exact .refl db

theorem later_removeRow (db : Database) (table : String) (id : RowId) :
    Later db (db.removeRow table id).2 := by
  unfold removeRow
  split
  · refine .of_held rfl fun other held => ?_
    obtain ⟨name,present⟩ := held
    change (row? (dropRow db.tables table id) name other).isSome at present
    rw [row?_dropRow] at present
    split at present
    · cases present
    · exact ⟨name,present⟩
  · exact .refl db

theorem later_commit (db : Database) (t : Transaction) : Later db (db.commit t).2 := by
  have logged : Later db {db with commits := db.commits ++ [t]} := .of_same rfl rfl
  unfold commit
  dsimp only
  split
  · exact logged
  · split
    · exact logged
    · refine logged.trans ?_
      unfold apply
      split
      · exact .refl _
      · exact (later_applyWrites t.writes _).trans (.of_same rfl rfl)

theorem row?_new (tables : List String) (name : String) (id : RowId) :
    row? (Database.new tables).tables name id = none := by
  unfold row?
  cases found : (Database.new tables).tables.get? name with
  | none => rfl
  | some rows =>
    obtain ⟨_,_,same⟩ := List.mem_map.mp (KeyMap.mem_of_get?_ofList found)
    obtain ⟨_,rfl⟩ := Prod.mk.inj same
    rfl

theorem issued_new (tables : List String) : (Database.new tables).Issued := by
  rintro id ⟨name,present⟩
  rw [row?_new] at present
  cases present

/-- The next id, and any after it, is not in use. -/
theorem Issued.not_held {db : Database} (issued : db.Issued) {n : Nat} (above : db.lastId < n) :
    ¬Held db.tables (rowId n) := by
  intro held
  obtain ⟨m,bound,same⟩ := issued _ held
  have numbers : m = n := rowId_injective same
  omega

end Database

theorem Session.later_run (s : Session) : s.db.Later s.run.2.db := by
  unfold Session.run
  split
  · exact .of_same rfl rfl
  · exact .refl _

theorem Call.later (call : Call) (s : Session) : s.db.Later (call.perform s).db := by
  cases call with
  | insert table fields => exact (s.db.later_addRow table fields).trans (.of_same rfl rfl)
  | update table id fields => exact s.db.later_updateRow table id fields
  | remove table id => exact s.db.later_removeRow table id
  | commit t => exact s.db.later_commit t
  | run => exact s.later_run
  | notice => exact .refl _
  | failRuns count => exact .of_same rfl rfl
  | forceStatus status => exact .of_same rfl rfl

theorem Step.later {before after : Session} (step : Step before after) : before.db.Later after.db := by
  cases step with
  | own call => exact call.later before
  | other call client => exact call.later ⟨before.db,client⟩

theorem Steps.later {before after : Session} (steps : Steps before after) : before.db.Later after.db := by
  induction steps with
  | refl => exact .refl _
  | tail _ last ih => exact ih.trans last.later

theorem Steps.issued {tables : List String} {s : Session} (steps : Steps (.new tables) s) : s.db.Issued :=
  steps.later.issued (Database.issued_new tables)

/-- The ids that some table has had a row of on the way to a state. -/
def EverHeld (tables : List String) (s : Session) (id : RowId) : Prop :=
  ∃ before, Steps (.new tables) before ∧ Steps before s ∧ Held before.db.tables id

/-- An id that the counter has not been at has never been in use. -/
theorem not_everHeld_of_lt {tables : List String} {s : Session} {n : Nat} (above : s.db.lastId < n) :
    ¬EverHeld tables s (rowId n) := by
  rintro ⟨before,reached,steps,held⟩
  exact reached.issued.not_held (Nat.lt_of_le_of_lt steps.later.lastId_le above) held

end Hostkeeper.Memory
