import Hostkeeper.Proofs.Schema.Decoding
import Hostkeeper.Proofs.Store.Snapshot

/-! What the rows of a snapshot are listed as. Each row is listed once, as a record or as a rejected row, by its own
columns alone, and both lists keep the order of the keys. In a keyed table the key of a record, the name in the record
and the name column of the row are the same text, so no name is that of a record and of a rejected row. -/
namespace Hostkeeper

theorem Row.named_of_decodeRow {t : Table} {row : Row} {value : t.RecordType}
    (keyed : Record.addressing t.RecordType = .keyed) (read : decodeRow row.fields = .ok value) :
    ∃ name, name ≠ "" ∧ row.get? "name" = some (.text name) ∧ row.name? = some name ∧ row.key = name ∧
      Record.name value = some name := by
  obtain ⟨name,found,filled,named⟩ := Table.name_of_decodeRow keyed read
  have set : row.get? "name" = some (.text name) := by
    rw [Row.get?,Column.set?,found]
    rfl
  have called : row.name? = some name := by simp [Row.name?,set,Json.text?,filled]
  exact ⟨name,filled,set,called,by rw [Row.key,called]; rfl,named⟩

namespace TableSnapshot

section Listing

variable {α : Type} [Record α]

/-- The key that a row is listed under if it can be read. -/
def listedKey (α : Type) [Record α] (key : String) (row : Row) : String :=
  if Record.addressing α = .keyed then key else row.id

/-- Each row in turn is listed as its record if it can be read, and as a rejected row otherwise. -/
inductive Listed (α : Type) [Record α] : List (String × Row) → List (TypedRow α) → List RejectedRow → Prop
  | nil : Listed α [] [] []
  | typed {key row value entries rows rejected} (read : decodeRow row.fields = .ok value)
      (rest : Listed α entries rows rejected) :
      Listed α ((key,row) :: entries) (⟨row.id,listedKey α key row,value⟩ :: rows) rejected
  | rejected {key row error entries rows rejected} (refused : decodeRow (α := α) row.fields = .error error)
      (rest : Listed α entries rows rejected) :
      Listed α ((key,row) :: entries) rows (⟨row.id,key,row.name?,error⟩ :: rejected)

/-- In a keyed table, every row that can be read has its key for a name. -/
def NamedByKey (α : Type) [Record α] (entries : List (String × Row)) : Prop :=
  Record.addressing α = .keyed → ∀ entry ∈ entries, ∀ value : α, decodeRow entry.2.fields = .ok value →
    Record.name value = some entry.1

theorem listed_filterMap {entries : List (String × Row)} (named : NamedByKey α entries) :
    Listed α entries ((entries.map (decodeEntry (α := α))).filterMap fun | .ok row => some row | .error _ => none)
      ((entries.map (decodeEntry (α := α))).filterMap fun | .ok _ => none | .error row => some row) := by
  induction entries with
  | nil => exact .nil
  | cons entry entries ih =>
    obtain ⟨key,row⟩ := entry
    have rest := ih fun keyed entry member => named keyed entry (List.mem_cons_of_mem _ member)
    cases read : decodeRow (α := α) row.fields with
    | ok value =>
      have outcome : decodeEntry (key,row) = .ok ⟨row.id,listedKey α key row,value⟩ := by
        simp only [decodeEntry,read,listedKey]
        by_cases keyed : Record.addressing α = .keyed
        · have name := named keyed (key,row) List.mem_cons_self value read
          simp [keyed,name]
        · simp [keyed]
      rw [List.map_cons,outcome]
      exact .typed read rest
    | error error =>
      rw [List.map_cons,decodeEntry_error (key,row) read]
      exact .rejected read rest

variable {entries : List (String × Row)} {rows : List (TypedRow α)} {rejected : List RejectedRow}

theorem Listed.length (listed : Listed α entries rows rejected) : rows.length + rejected.length = entries.length := by
  induction listed with
  | nil => rfl
  | typed _ _ ih => simp only [List.length_cons]; omega
  | rejected _ _ ih => simp only [List.length_cons]; omega

theorem Listed.keys_sublist (keyed : Record.addressing α = .keyed) (listed : Listed α entries rows rejected) :
    (rows.map (·.key)).Sublist (entries.map (·.1)) := by
  induction listed with
  | nil => exact .slnil
  | typed read rest ih =>
    rw [List.map_cons,List.map_cons,listedKey,if_pos keyed]
    exact ih.cons_cons _
  | rejected refused rest ih => exact ih.cons _

theorem Listed.of_typed (listed : Listed α entries rows rejected) {typed : TypedRow α} (member : typed ∈ rows) :
    ∃ key row, (key,row) ∈ entries ∧ typed.id = row.id ∧ typed.key = listedKey α key row ∧
      decodeRow row.fields = .ok typed.value := by
  induction listed with
  | nil => simp at member
  | @typed key row value entries rows rejected read rest ih =>
    rcases List.mem_cons.mp member with rfl | later
    · exact ⟨key,row,List.mem_cons_self,rfl,rfl,read⟩
    · obtain ⟨key,row,inside,same⟩ := ih later
      exact ⟨key,row,List.mem_cons_of_mem _ inside,same⟩
  | rejected refused rest ih =>
    obtain ⟨key,row,inside,same⟩ := ih member
    exact ⟨key,row,List.mem_cons_of_mem _ inside,same⟩

end Listing

section Tables

variable {t : Table} {table : String} {rows : List Row}

theorem namedByKey_ofRows : NamedByKey t.RecordType (ofRows table rows).rows.entries := by
  intro keyed entry member value read
  obtain ⟨name,-,-,-,key,named⟩ := Row.named_of_decodeRow keyed read
  rw [named,← key,(mem_entries_ofRows member).2]

theorem listed_decode (t : Table) (table : String) (rows : List Row) :
    let s := ofRows table rows
    let decoded := s.decode (α := t.RecordType)
    Listed t.RecordType s.rows.entries decoded.rows decoded.rejected := listed_filterMap namedByKey_ofRows

/-- A record of a keyed table, with the row that it is read from. -/
structure ReadFrom (t : Table) (s : TableSnapshot) (typed : TypedRow t.RecordType) (row : Row) : Prop where
  found : s.get? typed.key = some row
  id : typed.id = row.id
  read : decodeRow row.fields = .ok typed.value
  column : row.get? "name" = some (.text typed.key)
  name : row.name? = some typed.key
  record : Record.name typed.value = some typed.key
  filled : typed.key ≠ ""

theorem readFrom_of_typed (keyed : Record.addressing t.RecordType = .keyed) {typed : TypedRow t.RecordType}
    (member : typed ∈ (ofRows table rows).decode.rows) : ∃ row, ReadFrom t (ofRows table rows) typed row := by
  obtain ⟨key,row,inside,id,listedAs,read⟩ := (listed_decode t table rows).of_typed member
  obtain ⟨name,filled,column,called,stands,named⟩ := Row.named_of_decodeRow keyed read
  have key_eq : row.key = key := (mem_entries_ofRows inside).2
  have same : typed.key = name := by rw [listedAs,listedKey,if_pos keyed,← key_eq,stands]
  have found : (ofRows table rows).get? key = some row := (KeyMap.mem_entries_iff _ key row).mp inside
  rw [← key_eq,stands] at found
  exact ⟨row,by rwa [same],id,read,by rwa [same],by rwa [same],by rwa [same],by rwa [same]⟩

theorem keys_sorted (keyed : Record.addressing t.RecordType = .keyed) :
    (((ofRows table rows).decode (α := t.RecordType)).rows.map (·.key)).Pairwise (· < ·) :=
  (List.pairwise_map.mpr (ofRows table rows).rows.sorted).sublist ((listed_decode t table rows).keys_sublist keyed)

theorem not_listed_of_rejected (keyed : Record.addressing t.RecordType = .keyed) {name : String}
    (rejected : name ∈ ((ofRows table rows).decode (α := t.RecordType)).rejectedNames) :
    name ∉ ((ofRows table rows).decode (α := t.RecordType)).rows.map (·.key) := by
  intro listed
  obtain ⟨typed,member,rfl⟩ := List.mem_map.mp listed
  obtain ⟨row,from_row⟩ := readFrom_of_typed keyed member
  obtain ⟨key,other,error,found,refused,named⟩ := (mem_rejectedNames_iff _ _).mp rejected
  have stands : other.key = key := (mem_of_get?_ofRows found).2
  rw [Row.key,named,Option.getD_some] at stands
  rw [← stands,from_row.found] at found
  obtain rfl := Option.some.inj found
  exact nomatch from_row.read.symm.trans refused

/-- A snapshot made of any rows keeps the last one of each key, and has each row that it keeps in one of two lists, in
key order: with the records if its own columns can be read, and with the rejected rows otherwise. The records of a keyed
table stand under the names in their rows, which are all different and not empty, and none of these is the name of a
rejected row. -/
theorem every_row_is_listed_once (t : Table) (table : String) (rows : List Row) :
    let s := ofRows table rows
    let decoded := s.decode (α := t.RecordType)
    (s.rows.entries.Pairwise (·.1 < ·.1) ∧
      ∀ key row, (key,row) ∈ s.rows.entries ↔ (rows.filter (·.key = key)).getLast? = some row) ∧
    Listed t.RecordType s.rows.entries decoded.rows decoded.rejected ∧
    decoded.rows.length + decoded.rejected.length = s.rows.size ∧
    (Record.addressing t.RecordType = .keyed →
      (∀ typed ∈ decoded.rows, ∃ row, ReadFrom t s typed row) ∧
      (decoded.rows.map (·.key)).Pairwise (· < ·) ∧ (decoded.rows.map (·.key)).Nodup ∧
      ∀ name ∈ decoded.rejectedNames, name ∉ decoded.rows.map (·.key)) := by
  have sorted := (ofRows table rows).rows.sorted
  have listed := listed_decode t table rows
  refine ⟨⟨sorted,mem_entries_ofRows_iff⟩,listed,listed.length,fun keyed => ?_⟩
  have distinct := (KeyMap.keys_nodup _).sublist (listed.keys_sublist keyed)
  refine ⟨fun typed member => readFrom_of_typed keyed member,keys_sorted keyed,distinct,fun name => ?_⟩
  exact not_listed_of_rejected keyed

/-- A name twice, a column that does not fit, and names that are missing, empty or no text. -/
def motleyRows : List Row := [⟨"u1",.ofList [("name",.text "eth1"),("mtu",.text "jumbo")]⟩,
  ⟨"u2",.ofList [("name",.text "eth0"),("mtu",.bool true)]⟩,⟨"u3",.single "mtu" (.int 1500)⟩,
  ⟨"u4",.single "name" (.text "")⟩,⟨"u5",.single "name" (.text "eth0")⟩,⟨"u6",.single "name" (.int 7)⟩]

theorem motley_rows_are_listed_once :
    let decoded := (ofRows "Interface" motleyRows).decode (α := InterfaceSpec)
    Record.addressing InterfaceSpec = .keyed ∧ decoded.rows.map (fun typed => (typed.id,typed.key)) = [("u5","eth0")] ∧
    decoded.rejected.map (·.key) = ["eth1","u3","u4","u6"] ∧ decoded.rejectedNames = ["eth1"] ∧
    decoded.rows.length + decoded.rejected.length = 5 ∧ "eth1" ∉ decoded.rows.map (·.key) := by
  obtain ⟨-,-,counted,keys⟩ := every_row_is_listed_once .interface "Interface" motleyRows
  have names : ((ofRows "Interface" motleyRows).decode (α := InterfaceSpec)).rejectedNames = ["eth1"] := by
    decide +kernel
  refine ⟨rfl,by decide +kernel,by decide +kernel,names,counted.trans (by decide +kernel),?_⟩
  obtain ⟨-,-,-,apart⟩ := keys rfl
  refine apart "eth1" ?_
  exact names ▸ List.mem_singleton_self "eth1"

end Tables

end TableSnapshot

end Hostkeeper
