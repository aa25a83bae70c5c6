import Hostkeeper.Proofs.Json.Compact
import Hostkeeper.Proofs.Store.Snapshot
import Hostkeeper.Store.Ovsdb

/-! The text that a replica's digest is made of determines its tables, up to numbers of equal
text. The text lists rows by id and a table holds them by key, but a key can be told from the row. -/
namespace Hostkeeper

/-- Two rows have one id, and alike values in the same columns. -/
def SameRow (a b : Row) : Prop := a.id = b.id ∧ a.fields.Matches Json.Alike b.fields

def SameTable (a b : TableSnapshot) : Prop := a.table = b.table ∧ a.rows.Matches SameRow b.rows

def SameTables (a b : KeyMap TableSnapshot) : Prop := a.Matches SameTable b

theorem SameRow.get?_eq {a b : Row} (same : SameRow a b) (column : String) :
    Option.Rel Json.Alike (a.get? column) (b.get? column) := by
  have related := same.2 column
  unfold Row.get? Column.set?
  cases found : a.fields.get? column <;> cases other : b.fields.get? column <;>
    simp only [found,other,Option.rel_some_some,Option.not_rel_some_none,Option.not_rel_none_some] at related
  · exact .none
  · simp only [Option.bind_some,Json.isNull_of_alike related]
    split
    · exact .none
    · exact .some related

theorem SameRow.key_eq {a b : Row} (same : SameRow a b) : a.key = b.key := by
  have names : (a.get? "name").bind Json.text? = (b.get? "name").bind Json.text? := by
    have related := same.get?_eq "name"
    generalize a.get? "name" = x,b.get? "name" = y at related ⊢
    cases related with
    | none => rfl
    | some alike => exact Json.text?_of_alike alike
  rw [Row.key,Row.key,Row.name?,Row.name?,names,same.1]

namespace Ovsdb

def rowsById (s : TableSnapshot) : Fields :=
  .ofList (s.toList.map fun row => (row.id,.ofFields row.fields))

theorem get?_rowsById {s : TableSnapshot} (addressed : s.Addressed) (id : RowId) (value : Json) :
    (rowsById s).get? id = some value ↔
      ∃ row, s.get? row.key = some row ∧ row.id = id ∧ Json.ofFields row.fields = value := by
  have distinct : ((s.toList.map fun row => (row.id,Json.ofFields row.fields)).map (·.1)).Nodup := by
    rw [List.map_map]
    exact addressed.distinct
  rw [rowsById,KeyMap.get?_ofList_iff _ distinct,List.mem_map]
  refine exists_congr fun row => ?_
  rw [TableSnapshot.toList,KeyMap.mem_values_iff,Prod.mk.injEq]
  refine and_congr_left fun _ => ⟨?_,fun found => ⟨row.key,found⟩⟩
  rintro ⟨key,found⟩
  rw [addressed.keyed key row found]
  exact found

section Tables

variable {s t : TableSnapshot} (addressed_s : s.Addressed) (addressed_t : t.Addressed)
include addressed_s addressed_t

private theorem found_after (related : (rowsById s).Matches Json.Alike (rowsById t)) {row : Row}
    (found : s.get? row.key = some row) : ∃ other, t.get? row.key = some other ∧ SameRow row other := by
  obtain ⟨_,target,alike⟩ := related.after ((get?_rowsById addressed_s row.id _).mpr ⟨row,found,rfl,rfl⟩)
  obtain ⟨other,held,ids,rfl⟩ := (get?_rowsById addressed_t row.id _).mp target
  have same : SameRow row other := ⟨ids.symm,(Json.alike_ofFields _ _).mp alike⟩
  exact ⟨other,same.key_eq ▸ held,same⟩

private theorem found_before (related : (rowsById s).Matches Json.Alike (rowsById t)) {other : Row}
    (held : t.get? other.key = some other) : ∃ row, s.get? other.key = some row ∧ SameRow row other := by
  obtain ⟨_,source,alike⟩ := related.before ((get?_rowsById addressed_t other.id _).mpr ⟨other,held,rfl,rfl⟩)
  obtain ⟨row,found,ids,rfl⟩ := (get?_rowsById addressed_s other.id _).mp source
  have same : SameRow row other := ⟨ids,(Json.alike_ofFields _ _).mp alike⟩
  exact ⟨row,same.key_eq ▸ found,same⟩

theorem matches_rowsById : (rowsById s).Matches Json.Alike (rowsById t) ↔ s.rows.Matches SameRow t.rows := by
  constructor <;> intro related
  · refine KeyMap.matches_of_found ?_ ?_
    · intro key row found
      obtain rfl : row.key = key := addressed_s.keyed key row found
      exact found_after addressed_s addressed_t related found
    · intro key other held
      obtain rfl : other.key = key := addressed_t.keyed key other held
      exact found_before addressed_s addressed_t related held
  · refine KeyMap.matches_of_found ?_ ?_
    · intro id value source
      obtain ⟨row,found,rfl,rfl⟩ := (get?_rowsById addressed_s id value).mp source
      obtain ⟨other,held,same⟩ := related.after found
      exact ⟨_,(get?_rowsById addressed_t row.id _).mpr ⟨other,same.key_eq ▸ held,same.1.symm,rfl⟩,
        (Json.alike_ofFields _ _).mpr same.2⟩
    · intro id value target
      obtain ⟨other,held,rfl,rfl⟩ := (get?_rowsById addressed_t id value).mp target
      obtain ⟨row,found,same⟩ := related.before held
      exact ⟨_,(get?_rowsById addressed_s other.id _).mpr ⟨row,same.key_eq ▸ found,same.1,rfl⟩,
        (Json.alike_ofFields _ _).mpr same.2⟩

end Tables

/-- A replica whose tables are addressed and stand under their names. -/
def Orderly (cache : KeyMap TableSnapshot) : Prop :=
  ∀ name table, cache.get? name = some table → table.Addressed ∧ table.table = name

/-- The text behind a digest tells one set of tables from another. -/
theorem compact_cacheJson_eq_iff {a b : KeyMap TableSnapshot} (orderly_a : Orderly a) (orderly_b : Orderly b) :
    (cacheJson a).compact = (cacheJson b).compact ↔ SameTables a b := by
  rw [Json.compact_eq_iff,cacheJson,cacheJson,Json.alike_ofFields,KeyMap.matches_map]
  refine forall_congr' fun name => ?_
  cases found : a.get? name <;> cases held : b.get? name <;>
    simp only [Option.rel_some_some,Option.rel_none_none,Option.not_rel_some_none,Option.not_rel_none_some]
  next s t =>
    obtain ⟨addressed_s,named_s⟩ := orderly_a name s found
    obtain ⟨addressed_t,named_t⟩ := orderly_b name t held
    rw [Json.alike_ofFields]
    exact (matches_rowsById addressed_s addressed_t).trans (and_iff_right (named_s.trans named_t.symm)).symm

end Ovsdb

end Hostkeeper
