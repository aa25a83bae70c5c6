import Hostkeeper.Proofs.KeyMap
import Hostkeeper.Store.Snapshot
import Mathlib.Data.List.Induction

/-! Tables made of rows. A table holds each row under its key, the last of equal keys only. Of a committed table, whose
rows are taken in the order of their ids, that is the row with the greatest id among those of its key. -/
namespace Hostkeeper

namespace TableSnapshot

theorem table_ofRows (name : String) (rows : List Row) : (ofRows name rows).table = name := by
  have kept (s : TableSnapshot) : (rows.foldl insert s).table = s.table := by
    induction rows generalizing s with
    | nil => rfl
    | cons row rest ih => exact ih (s.insert row)
  exact kept (empty name)

theorem rows_ofRows (name : String) (rows : List Row) :
    (ofRows name rows).rows = .ofList (rows.map fun row => (row.key,row)) := by
  have folded (s : TableSnapshot) :
      (rows.foldl insert s).rows = s.rows.insertAll (rows.map fun row => (row.key,row)) := by
    induction rows generalizing s with
    | nil => rfl
    | cons row rest ih => exact ih (s.insert row)
  exact folded (empty name)

theorem mem_of_get?_ofRows {name key : String} {rows : List Row} {row : Row}
    (found : (ofRows name rows).get? key = some row) : row ∈ rows ∧ row.key = key := by
  rw [get?,rows_ofRows] at found
  obtain ⟨_,member,same⟩ := List.mem_map.mp (KeyMap.mem_of_get?_ofList found)
  obtain ⟨keys,rfl⟩ := Prod.mk.inj same
  exact ⟨member,keys⟩

theorem mem_entries_ofRows {name key : String} {rows : List Row} {row : Row}
    (member : (key,row) ∈ (ofRows name rows).rows.entries) : row ∈ rows ∧ row.key = key :=
  mem_of_get?_ofRows ((KeyMap.mem_entries_iff _ key row).mp member)

/-- Of the rows with one key, a snapshot has the last. -/
theorem mem_entries_ofRows_iff {table : String} {rows : List Row} (key : String) (row : Row) :
    (key,row) ∈ (ofRows table rows).rows.entries ↔ (rows.filter (·.key = key)).getLast? = some row := by
  rw [KeyMap.mem_entries_iff]
  induction rows using List.reverseRecOn with
  | nil => simp [ofRows,empty]
  | append_singleton rows last ih =>
    have added : (ofRows table (rows ++ [last])).rows = (ofRows table rows).rows.insert last.key last := by
      rw [ofRows,List.foldl_append]
      rfl
    rw [added,KeyMap.get?_insert,List.filter_append]
    by_cases same : key = last.key
    · simp [same]
    · simp [same,Ne.symm same,ih]

section Committed

theorem getLast?_filter_iff {rows : List Row} (sorted : rows.Pairwise (·.id < ·.id)) (keep : Row → Bool) (row : Row) :
    (rows.filter keep).getLast? = some row ↔
      row ∈ rows ∧ keep row ∧ ∀ other ∈ rows, keep other → other.id ≤ row.id := by
  have least {last other : Row} (found : (rows.filter keep).getLast? = some last) (member : other ∈ rows.filter keep) :
      other = last ∨ other.id < last.id := by
    obtain ⟨front,parts⟩ := List.getLast?_eq_some_iff.mp found
    have ordered := sorted.filter keep
    rw [parts] at member ordered
    rcases List.mem_append.mp member with before | same
    · exact .inr ((List.pairwise_append.mp ordered).2.2 other before last (List.mem_singleton_self last))
    · exact .inl (List.mem_singleton.mp same)
  constructor
  · intro found
    obtain ⟨inside,kept⟩ := List.mem_filter.mp (List.mem_of_getLast? found)
    refine ⟨inside,kept,fun other also keeps => ?_⟩
    rcases least found (List.mem_filter.mpr ⟨also,keeps⟩) with rfl | below
    · exact String.le_refl _
    · exact String.not_lt.mp fun above => String.lt_irrefl _ (String.lt_trans below above)
  · rintro ⟨inside,kept,greatest⟩
    have member := List.mem_filter.mpr ⟨inside,kept⟩
    cases found : (rows.filter keep).getLast? with
    | none => exact absurd (List.getLast?_eq_none_iff.mp found) (List.ne_nil_of_mem member)
    | some last =>
      obtain ⟨also,keeps⟩ := List.mem_filter.mp (List.mem_of_getLast? found)
      rcases least found member with rfl | below
      · rfl
      · exact absurd below (String.not_lt.mpr (greatest last also keeps))

/-- A row of a committed table that comes after every other row with its key. Ids are given in order. -/
structure LastOf (contents : KeyMap Fields) (key : String) (row : Row) : Prop where
  held : contents.get? row.id = some row.fields
  key_eq : row.key = key
  last : ∀ id fields, contents.get? id = some fields → Row.key ⟨id,fields⟩ = key → id ≤ row.id

/-- The table has the last row of each key, and no other. -/
def Shows (s : TableSnapshot) (contents : KeyMap Fields) : Prop :=
  ∀ key row, s.get? key = some row ↔ LastOf contents key row

theorem shows_ofRows (name : String) (contents : KeyMap Fields) :
    (ofRows name (contents.entries.map fun e => ⟨e.1,e.2⟩)).Shows contents := by
  intro key row
  have member (row : Row) : row ∈ contents.entries.map (fun e => (⟨e.1,e.2⟩ : Row)) ↔
      contents.get? row.id = some row.fields := by
    rw [← KeyMap.mem_entries_iff,List.mem_map]
    exact ⟨fun ⟨_,inside,same⟩ => same ▸ inside,fun inside => ⟨_,inside,rfl⟩⟩
  have sorted : (contents.entries.map fun e => (⟨e.1,e.2⟩ : Row)).Pairwise (·.id < ·.id) :=
    List.pairwise_map.mpr contents.sorted
  rw [get?,← KeyMap.mem_entries_iff,mem_entries_ofRows_iff,getLast?_filter_iff sorted,member]
  constructor
  · rintro ⟨held,named,greatest⟩
    refine ⟨held,of_decide_eq_true named,fun id fields found same => ?_⟩
    exact greatest ⟨id,fields⟩ ((member _).mpr found) (decide_eq_true same)
  · rintro ⟨held,named,greatest⟩
    refine ⟨held,decide_eq_true named,fun other inside same => ?_⟩
    exact greatest other.id other.fields ((member other).mp inside) (of_decide_eq_true same)

/-- What a table shows where one row is committed. -/
theorem Shows.get?_single {s : TableSnapshot} (row : Row) (shows : s.Shows (.single row.id row.fields)) (key : String) :
    s.get? key = if key = row.key then some row else none := by
  have only {id : RowId} {fields : Fields} (held : (KeyMap.single row.id row.fields).get? id = some fields) :
      id = row.id ∧ fields = row.fields := by
    simpa [KeyMap.single,eq_comm] using held
  split
  next same =>
    refine (shows key row).mpr ⟨by simp [KeyMap.single],same.symm,fun id fields held _ => ?_⟩
    obtain ⟨rfl,-⟩ := only held
    exact String.le_refl _
  next other =>
    cases found : s.get? key with
    | none => rfl
    | some shown =>
      obtain ⟨held,named,-⟩ := (shows key shown).mp found
      obtain ⟨id,fields⟩ := only held
      have same : shown = row := by rw [show shown = ⟨shown.id,shown.fields⟩ from rfl,id,fields]
      exact absurd (same ▸ named.symm) other

end Committed

/-- A table whose rows stand under their keys and have ids of their own. -/
structure Addressed (s : TableSnapshot) : Prop where
  keyed : ∀ key row, s.get? key = some row → row.key = key
  distinct : (s.toList.map (·.id)).Nodup

theorem addressed_ofRows (name : String) {rows : List Row} (distinct : (rows.map (·.id)).Nodup) :
    Addressed (ofRows name rows) := by
  have keyed (key row) (found : (ofRows name rows).get? key = some row) := (mem_of_get?_ofRows found).2
  refine ⟨keyed,?_⟩
  have entry {e} (member : e ∈ (ofRows name rows).rows.entries) : e.2 ∈ rows ∧ e.2.key = e.1 :=
    mem_entries_ofRows member
  rw [toList,KeyMap.values,List.map_map]
  refine List.Nodup.map_on ?_ (List.Nodup.of_map _ (KeyMap.keys_nodup _))
  intro a member_a b member_b same
  have rows : a.2 = b.2 := List.inj_on_of_nodup_map distinct (entry member_a).1 (entry member_b).1 same
  exact Prod.ext ((entry member_a).2.symm.trans (rows ▸ (entry member_b).2)) rows

section Decoding

variable {α : Type} [Record α] (s : TableSnapshot)

theorem decodeEntry_ok (entry : String × Row) {value : α} (read : decodeRow entry.2.fields = .ok value) :
    ∃ key, decodeEntry entry = .ok ⟨entry.2.id,key,value⟩ := by
  unfold decodeEntry
  rw [read]
  exact ⟨_,rfl⟩

theorem decodeEntry_error (entry : String × Row) {error : SchemaError}
    (read : decodeRow (α := α) entry.2.fields = .error error) :
    decodeEntry (α := α) entry = .error ⟨entry.2.id,entry.1,entry.2.name?,error⟩ := by
  unfold decodeEntry
  rw [read]

theorem mem_rows_iff (row : TypedRow α) :
    row ∈ (s.decode (α := α)).rows ↔ ∃ entry ∈ s.rows.entries, decodeEntry entry = .ok row := by
  simp only [decode,List.mem_filterMap,List.mem_map,exists_exists_and_eq_and]
  refine exists_congr fun entry => and_congr_right fun _ => ?_
  cases decodeEntry (α := α) entry <;> simp

theorem mem_rejected_iff (row : RejectedRow) :
    row ∈ (s.decode (α := α)).rejected ↔ ∃ entry ∈ s.rows.entries, decodeEntry (α := α) entry = .error row := by
  simp only [decode,List.mem_filterMap,List.mem_map,exists_exists_and_eq_and]
  refine exists_congr fun entry => and_congr_right fun _ => ?_
  cases decodeEntry (α := α) entry <;> simp

/-- The records of a table are those of all rows that can be read. -/
theorem mem_values_decode_iff (value : α) : value ∈ (s.decode (α := α)).rows.map (·.value) ↔
    ∃ key row, s.get? key = some row ∧ decodeRow row.fields = .ok value := by
  constructor
  · intro member
    obtain ⟨typed,inside,rfl⟩ := List.mem_map.mp member
    obtain ⟨entry,present,decoded⟩ := (s.mem_rows_iff typed).mp inside
    refine ⟨entry.1,entry.2,(KeyMap.mem_entries_iff _ _ _).mp present,?_⟩
    cases read : decodeRow (α := α) entry.2.fields with
    | ok value =>
      obtain ⟨key,outcome⟩ := decodeEntry_ok entry read
      rw [outcome] at decoded
      cases decoded
      rfl
    | error error =>
      rw [decodeEntry_error entry read] at decoded
      cases decoded
  · rintro ⟨key,row,found,read⟩
    have present : (key,row) ∈ s.rows.entries := (KeyMap.mem_entries_iff _ _ _).mpr found
    obtain ⟨_,outcome⟩ := decodeEntry_ok (key,row) read
    exact List.mem_map.mpr ⟨_,(s.mem_rows_iff _).mpr ⟨(key,row),present,outcome⟩,rfl⟩

theorem mem_rejectedNames_iff (name : String) : name ∈ (s.decode (α := α)).rejectedNames ↔
    ∃ key row error, s.get? key = some row ∧ decodeRow (α := α) row.fields = .error error ∧
      row.name? = some name := by
  rw [Decoded.rejectedNames,List.mem_filterMap]
  constructor
  · rintro ⟨rejected,inside,named⟩
    obtain ⟨entry,present,decoded⟩ := (s.mem_rejected_iff rejected).mp inside
    have found := (KeyMap.mem_entries_iff _ entry.1 entry.2).mp present
    cases read : decodeRow (α := α) entry.2.fields with
    | ok value =>
      obtain ⟨key,outcome⟩ := decodeEntry_ok entry read
      rw [outcome] at decoded
      cases decoded
    | error error =>
      rw [decodeEntry_error entry read] at decoded
      cases decoded
      exact ⟨entry.1,entry.2,error,found,read,named⟩
  · rintro ⟨key,row,error,found,read,named⟩
    have present : (key,row) ∈ s.rows.entries := (KeyMap.mem_entries_iff _ _ _).mpr found
    exact ⟨_,(s.mem_rejected_iff _).mpr ⟨(key,row),present,decodeEntry_error (key,row) read⟩,named⟩

end Decoding

end TableSnapshot

end Hostkeeper
