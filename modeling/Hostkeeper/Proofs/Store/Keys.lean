import Hostkeeper.Proofs.Store.Snapshot

/-! What a snapshot keeps of the rows that it is made of. A row stands under its name, or under its id if it has no
name, so a name can be taken for the id of a row without one. Of two such rows the one that is added last takes the
place of the other; any other row is kept. -/
namespace Hostkeeper

/-- No row is named like the id of a row without a name. -/
def Unmistaken (rows : List Row) : Prop :=
  ∀ row ∈ rows, row.name? = none → ∀ other ∈ rows, other.name? ≠ some row.id

instance (rows : List Row) : Decidable (Unmistaken rows) :=
  inferInstanceAs (Decidable (∀ row ∈ rows, row.name? = none → ∀ other ∈ rows, other.name? ≠ some row.id))

namespace Row

variable {rows : List Row} {row other : Row} {name : String}

@[simp] theorem key_of_name (named : row.name? = some name) : row.key = name := by
  simp [key,named]

@[simp] theorem key_of_nameless (nameless : row.name? = none) : row.key = row.id := by
  simp [key,nameless]

theorem eq_of_id (ids : (rows.map (·.id)).Nodup) (member : row ∈ rows) (also : other ∈ rows)
    (same : row.id = other.id) : row = other :=
  List.inj_on_of_nodup_map ids member also same

theorem eq_of_name (names : (rows.filterMap (·.name?)).Nodup) (member : row ∈ rows) (also : other ∈ rows)
    (named : row.name? = some name) (same : other.name? = some name) : row = other :=
  eq_of_nodup_filterMap names member also named same

/-- Of the rows with names and ids of their own, two can share a key in one way only. -/
theorem eq_of_key (ids : (rows.map (·.id)).Nodup) (names : (rows.filterMap (·.name?)).Nodup)
    (unmistaken : Unmistaken rows) (member : row ∈ rows) (also : other ∈ rows) (same : row.key = other.key) :
    row = other := by
  cases named : row.name? with
  | some name =>
    rw [key_of_name named] at same
    cases called : other.name? with
    | some _ => exact eq_of_name names member also named (by rw [called,same,key_of_name called])
    | none =>
      rw [key_of_nameless called] at same
      exact absurd (same ▸ named) (unmistaken other also called row member)
  | none =>
    rw [key_of_nameless named] at same
    cases called : other.name? with
    | some _ =>
      rw [key_of_name called] at same
      exact absurd (same ▸ called) (unmistaken row member named other also)
    | none => exact eq_of_id ids member also (same.trans (key_of_nameless called))

theorem nodup_keys_iff (ids : (rows.map (·.id)).Nodup) (names : (rows.filterMap (·.name?)).Nodup) :
    (rows.map key).Nodup ↔ Unmistaken rows := by
  constructor
  · intro keys row member nameless other also named
    have same : other.key = row.key := by rw [key_of_name named,key_of_nameless nameless]
    have rows_eq : other = row := List.inj_on_of_nodup_map keys also member same
    rw [rows_eq,nameless] at named
    cases named
  · intro unmistaken
    refine List.Nodup.map_on ?_ (List.Nodup.of_map _ ids)
    intro row member other also same
    exact eq_of_key ids names unmistaken member also same

end Row

namespace TableSnapshot

variable {table : String} {rows : List Row}

theorem keys_of_rows : (rows.map fun row => (row.key,row)).map (·.1) = rows.map Row.key := by
  simp

theorem size_ofRows_iff : (ofRows table rows).rows.size = rows.length ↔ (rows.map Row.key).Nodup := by
  have sizes := KeyMap.size_ofList_iff (rows.map fun row => (row.key,row))
  rw [rows_ofRows,← keys_of_rows,← sizes,List.length_map]

theorem ofRows_perm {others : List Row} (perm : others.Perm rows) (keys : (rows.map Row.key).Nodup) :
    ofRows table others = ofRows table rows := by
  have entries : (ofRows table others).rows = (ofRows table rows).rows := by
    rw [rows_ofRows,rows_ofRows]
    exact KeyMap.ofList_perm (perm.map _) (keys_of_rows ▸ keys)
  have tables : (ofRows table others).table = (ofRows table rows).table := by
    rw [table_ofRows,table_ofRows]
  calc ofRows table others
    _ = ⟨(ofRows table others).table,(ofRows table others).rows⟩ := rfl
    _ = ⟨(ofRows table rows).table,(ofRows table rows).rows⟩ := by rw [tables,entries]

theorem get?_ofRows {row : Row} (member : row ∈ rows) (alone : ∀ other ∈ rows, other.key = row.key → other = row) :
    (ofRows table rows).get? row.key = some row := by
  have entry : (row.key,row) ∈ rows.map fun row => (row.key,row) := List.mem_map_of_mem member
  obtain ⟨last,found⟩ := KeyMap.exists_get?_ofList entry
  rw [← rows_ofRows table] at found
  obtain ⟨inside,key⟩ := mem_of_get?_ofRows found
  rw [get?,found,alone last inside key]

/-- A snapshot that has every one of some rows, where it is looked for, whatever the order of the rows. -/
structure Keeps (table : String) (rows : List Row) : Prop where
  size : (ofRows table rows).rows.size = rows.length
  named : ∀ row ∈ rows, ∀ name, row.name? = some name → (ofRows table rows).get? name = some row
  nameless : ∀ row ∈ rows, row.name? = none → (ofRows table rows).get? row.id = some row
  order : ∀ others : List Row, others.Perm rows → ofRows table others = ofRows table rows

theorem keeps_of_nodup (keys : (rows.map Row.key).Nodup) : Keeps table rows := by
  have found (row) (member : row ∈ rows) : (ofRows table rows).get? row.key = some row :=
    get?_ofRows member fun other also same => List.inj_on_of_nodup_map keys also member same
  refine ⟨size_ofRows_iff.mpr keys,?_,?_,fun others perm => ofRows_perm perm keys⟩
  · intro row member name named
    rw [← Row.key_of_name named]
    exact found row member
  · intro row member nameless
    rw [← Row.key_of_nameless nameless]
    exact found row member

/-- Of rows with ids and names of their own, a snapshot keeps every row exactly if no row is named like the id of a
row without a name. Otherwise it still keeps each row that no such name has to do with. -/
theorem every_row_is_kept_unless_mistaken (table : String) {rows : List Row} (ids : (rows.map (·.id)).Nodup)
    (names : (rows.filterMap (·.name?)).Nodup) :
    (Keeps table rows ↔ Unmistaken rows) ∧
    (∀ row ∈ rows, ∀ name, row.name? = some name → (∀ other ∈ rows, other.name? = none → other.id ≠ name) →
      (ofRows table rows).get? name = some row) ∧
    ∀ row ∈ rows, row.name? = none → (∀ other ∈ rows, other.name? ≠ some row.id) →
      (ofRows table rows).get? row.id = some row := by
  refine ⟨?_,?_,?_⟩
  · rw [← Row.nodup_keys_iff ids names]
    exact ⟨fun kept => size_ofRows_iff.mp kept.size,keeps_of_nodup⟩
  · intro row member name named free
    rw [← Row.key_of_name named]
    refine get?_ofRows member fun other also same => ?_
    rw [Row.key_of_name named] at same
    cases called : other.name? with
    | some _ => exact Row.eq_of_name names also member (by rw [called,← same,Row.key_of_name called]) named
    | none => exact absurd ((Row.key_of_nameless called).symm.trans same) (free other also called)
  · intro row member nameless free
    rw [← Row.key_of_nameless nameless]
    refine get?_ofRows member fun other also same => ?_
    rw [Row.key_of_nameless nameless] at same
    cases called : other.name? with
    | some _ => exact absurd (by rw [called,← same,Row.key_of_name called]) (free other also)
    | none => exact Row.eq_of_id ids also member ((Row.key_of_nameless called).symm.trans same)

/-- Two rows without a name, and a row that is named like the id of a row with one. -/
def mixedRows : List Row := [⟨"u1",.single "name" (.text "eth0")⟩,⟨"u2",.single "name" (.text "")⟩,
  ⟨"u3",.single "mtu" (.int 1500)⟩,⟨"u4",.single "name" (.text "u1")⟩]

theorem mixed_rows_are_kept :
    (mixedRows.map (·.id)).Nodup ∧ (mixedRows.filterMap (·.name?)).Nodup ∧ Keeps "Interface" mixedRows ∧
    (ofRows "Interface" mixedRows).get? "u1" = some ⟨"u4",.single "name" (.text "u1")⟩ := by
  have ids : (mixedRows.map (·.id)).Nodup := by decide
  have names : (mixedRows.filterMap (·.name?)).Nodup := by decide +kernel
  have kept := (every_row_is_kept_unless_mistaken "Interface" ids names).1.mpr (by decide +kernel)
  refine ⟨ids,names,kept,kept.named ⟨"u4",.single "name" (.text "u1")⟩ ?_ "u1" (by decide +kernel)⟩
  simp [mixedRows]

/-- A machine that is named like the id of a row without a name. -/
def mistakenRows : List Row := [⟨"u1",.single "name" (.text "u2")⟩,⟨"u2",.single "cpu" (.int 2)⟩]

theorem row_named_like_an_id_is_lost :
    (mistakenRows.map (·.id)).Nodup ∧ (mistakenRows.filterMap (·.name?)).Nodup ∧
    (ofRows "VirtualMachine" mistakenRows).rows.size ≠ mistakenRows.length ∧
    (∃ row ∈ mistakenRows, row.name? = some "u2" ∧ (ofRows "VirtualMachine" mistakenRows).get? "u2" ≠ some row) ∧
    mistakenRows.reverse.Perm mistakenRows ∧
    ofRows "VirtualMachine" mistakenRows.reverse ≠ ofRows "VirtualMachine" mistakenRows := by
  refine ⟨by decide,by decide +kernel,by decide +kernel,?_,List.reverse_perm _,by decide +kernel⟩
  exact ⟨⟨"u1",.single "name" (.text "u2")⟩,by simp [mistakenRows],by decide +kernel,by decide +kernel⟩

end TableSnapshot

end Hostkeeper
