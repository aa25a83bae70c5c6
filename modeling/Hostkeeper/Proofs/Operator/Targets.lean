import Hostkeeper.Operator.Setting
import Hostkeeper.Proofs.Store.Lone

/-! The row that a setting goes to. A row goes by the name that stands in it, and the rows of host-wide settings
all go by the same one. A snapshot takes less for a name than what stands in a row: an empty name counts as none,
and a row without a name stands under its id, in the place of a row that has this id for its name. -/
namespace Hostkeeper

open Memory

namespace Resource

theorem table_name_injective {a b : Resource} (same : a.table.name = b.table.name) : a = b := by
  revert same
  cases a <;> cases b <;> decide

/-- The name that settings of a resource give to the row that they go to. -/
def address (r : Resource) (name : String) : String := if r = .system then "" else name

/-- The name that a row of a resource goes by. -/
def address? (r : Resource) (fields : Fields) : Option String :=
  if r = .system then some "" else (fields.get? "name").bind Json.text?

end Resource

theorem Row.name?_eq_some_iff (row : Row) {name : String} (filled : name ≠ "") :
    row.name? = some name ↔ (row.fields.get? "name").bind Json.text? = some name := by
  have text : (row.get? "name").bind Json.text? = (row.fields.get? "name").bind Json.text? := by
    rw [Row.get?,Column.set?]
    cases row.fields.get? "name" with
    | none => rfl
    | some value => cases value <;> rfl
  rw [Row.name?,text]
  constructor
  · intro read
    obtain ⟨s,written,kept⟩ := Option.bind_eq_some_iff.mp read
    split at kept
    · cases kept
    · rw [written,← Option.some.inj kept]
  · intro written
    rw [written,Option.bind_some,if_neg (by simpa using filled)]

theorem Row.isSome_name?_of_column {row : Row} {name : String} (filled : name ≠ "")
    (column : (row.fields.get? "name").bind Json.text? = some name) : row.name?.isSome := by
  rw [(row.name?_eq_some_iff filled).mpr column]
  rfl

namespace Setting

/-- A row that is there and goes by a name. -/
structure RowAt (tables : Tables) (r : Resource) (address : String) (id : RowId) (fields : Fields) : Prop where
  held : row? tables r.table.name id = some fields
  named : r.address? fields = some address

/-- No two rows of a resource go by the same name. -/
def Unshared (tables : Tables) : Prop := ∀ r address i j first second,
  RowAt tables r address i first → RowAt tables r address j second → i = j

/-- A name that a snapshot can find its row by: not empty, and not the id of a row without a name. -/
def Findable (tables : Tables) (r : Resource) (name : String) : Prop := r = .system ∨
  name ≠ "" ∧ (row? tables r.table.name name).all fun fields => (Row.mk name fields).name?.isSome

instance (tables : Tables) (r : Resource) (name : String) : Decidable (Findable tables r name) :=
  inferInstanceAs (Decidable (_ ∨ _))

section Rows

variable {db : Database} {r : Resource} {name address : String} {id : RowId} {fields : Fields}

theorem RowAt.address_eq {tables : Tables} {other : String} {again : Fields} (one : RowAt tables r address id fields)
    (two : RowAt tables r other id again) : address = other := by
  have same : fields = again := Option.some.inj (one.held.symm.trans two.held)
  exact Option.some.inj (one.named.symm.trans (same ▸ two.named))

theorem mem_rows_iff (db : Database) (table : String) (row : Row) :
    row ∈ db.rows table ↔ row? db.tables table row.id = some row.fields := by
  rw [Database.row?_eq_get?_rowsOf,← KeyMap.mem_entries_iff,Database.rows,List.mem_map]
  constructor
  · rintro ⟨entry,member,rfl⟩
    exact member
  · exact fun member => ⟨_,member,rfl⟩

/-- Names that are all different in the rows of each resource. -/
theorem unshared_of_nodup (distinct : ∀ r ∈ Resource.all,
    ((db.rows r.table.name).filterMap fun row => r.address? row.fields).Nodup) : Unshared db.tables := by
  intro r address i j first second one two
  have members := (mem_rows_iff db _ ⟨i,first⟩).mpr one.held
  have also := (mem_rows_iff db _ ⟨j,second⟩).mpr two.held
  have rows : (⟨i,first⟩ : Row) = ⟨j,second⟩ :=
    eq_of_nodup_filterMap (distinct r (by cases r <;> decide)) members also one.named two.named
  exact congrArg Row.id rows

def wanted (r : Resource) (name : String) (row : Row) : Bool := r = .system || row.name? = some name

theorem target?_eq (r : Resource) (name : String) (snapshot : TableSnapshot) :
    target? r name snapshot = snapshot.toList.find? (wanted r name) := by
  cases r with
  | system =>
    unfold target? TableSnapshot.first?
    cases snapshot.toList <;> rfl
  | interface | vm => rfl

theorem mem_of_mem_toList {table : String} {rows : List Row} {row : Row}
    (member : row ∈ (TableSnapshot.ofRows table rows).toList) : row ∈ rows := by
  obtain ⟨key,found⟩ := (KeyMap.mem_values_iff _ row).mp member
  exact (TableSnapshot.mem_of_get?_ofRows found).1

theorem rowAt_of_wanted {row : Row} (filled : r = .system ∨ name ≠ "") (member : row ∈ db.rows r.table.name)
    (taken : wanted r name row) : RowAt db.tables r (r.address name) row.id row.fields := by
  refine ⟨(mem_rows_iff db _ row).mp member,?_⟩
  unfold Resource.address? Resource.address
  unfold wanted at taken
  by_cases system : r = .system
  · rw [if_pos system,if_pos system]
  · rw [if_neg system,if_neg system]
    have named : row.name? = some name := by simpa [system] using taken
    exact (row.name?_eq_some_iff (filled.resolve_left system)).mp named

theorem wanted_of_rowAt (filled : r = .system ∨ name ≠ "") (place : RowAt db.tables r (r.address name) id fields) :
    wanted r name ⟨id,fields⟩ := by
  have named := place.named
  unfold Resource.address? Resource.address at named
  unfold wanted
  by_cases system : r = .system
  · simp [system]
  · rw [if_neg system,if_neg system] at named
    simpa [system] using (Row.name?_eq_some_iff ⟨id,fields⟩ (filled.resolve_left system)).mpr named

theorem Findable.filled {tables : Tables} (findable : Findable tables r name) : r = .system ∨ name ≠ "" :=
  findable.imp_right And.left

theorem wanted_of_key {row other : Row} (findable : Findable db.tables r name) (taken : wanted r name row)
    (member : other ∈ db.rows r.table.name) (same : other.key = row.key) : wanted r name other := by
  rcases findable with system | ⟨-,named⟩
  · simp [wanted,system]
  · by_cases system : r = .system
    · simp [wanted,system]
    · have name? : row.name? = some name := by simpa [wanted,system] using taken
      rw [show row.key = name by rw [Row.key,name?]; rfl,Row.key] at same
      cases known : other.name? with
      | some n => simpa [wanted,system,known] using same
      | none =>
        rw [known,Option.getD_none] at same
        rw [← same,(mem_rows_iff db r.table.name other).mp member,Option.all_some,known] at named
        cases named

theorem eq_of_wanted (unshared : Unshared db.tables) (filled : r = .system ∨ name ≠ "")
    (place : RowAt db.tables r (r.address name) id fields) {row : Row} (member : row ∈ db.rows r.table.name)
    (taken : wanted r name row) : row = ⟨id,fields⟩ := by
  have again := rowAt_of_wanted filled member taken
  obtain rfl : row.id = id := unshared _ _ _ _ _ _ again place
  obtain rfl : row.fields = fields := Option.some.inj (again.held.symm.trans place.held)
  rfl

theorem mem_toList_of_rowAt (unshared : Unshared db.tables) (findable : Findable db.tables r name)
    (place : RowAt db.tables r (r.address name) id fields) :
    ⟨id,fields⟩ ∈ (TableSnapshot.ofRows r.table.name (db.rows r.table.name)).toList := by
  have member := (mem_rows_iff db r.table.name ⟨id,fields⟩).mpr place.held
  have entry := List.mem_map_of_mem (f := fun row : Row => (row.key,row)) member
  obtain ⟨other,found⟩ := KeyMap.exists_get?_ofList entry
  rw [← TableSnapshot.rows_ofRows r.table.name] at found
  obtain ⟨inside,keys⟩ := TableSnapshot.mem_of_get?_ofRows found
  have taken := wanted_of_key findable (wanted_of_rowAt findable.filled place) inside keys
  obtain rfl := eq_of_wanted unshared findable.filled place inside taken
  exact (KeyMap.mem_values_iff _ _).mpr ⟨_,found⟩

theorem target?_of_rowAt (unshared : Unshared db.tables) (findable : Findable db.tables r name)
    (place : RowAt db.tables r (r.address name) id fields) :
    target? r name (.ofRows r.table.name (db.rows r.table.name)) = some ⟨id,fields⟩ := by
  have member := mem_toList_of_rowAt unshared findable place
  have taken := wanted_of_rowAt findable.filled place
  rw [target?_eq]
  cases found : (TableSnapshot.ofRows r.table.name (db.rows r.table.name)).toList.find? (wanted r name) with
  | none => exact absurd taken (List.find?_eq_none.mp found _ member)
  | some row =>
    have inside := mem_of_mem_toList (List.mem_of_find?_eq_some found)
    rw [eq_of_wanted unshared findable.filled place inside (List.find?_some found)]

theorem target?_of_absent (filled : r = .system ∨ name ≠ "")
    (absent : ∀ id fields, ¬RowAt db.tables r (r.address name) id fields) :
    target? r name (.ofRows r.table.name (db.rows r.table.name)) = none := by
  rw [target?_eq,List.find?_eq_none]
  intro row member taken
  exact absent _ _ (rowAt_of_wanted filled (mem_of_mem_toList member) taken)

end Rows

/-- No snapshot has a row by an empty name. -/
theorem target?_empty {r : Resource} (keyed : r ≠ .system) (snapshot : TableSnapshot) :
    target? r "" snapshot = none := by
  rw [target?_eq,List.find?_eq_none]
  intro row _ taken
  have named : row.name? = some "" := by simpa [wanted,keyed] using taken
  obtain ⟨name,-,kept⟩ := Option.bind_eq_some_iff.mp named
  split at kept
  next => cases kept
  next filled => exact filled (Option.some.inj kept ▸ rfl)

/-- A row without a name keeps the row that has its id for a name out of the snapshot. -/
example : target? .interface "2" (.ofRows "Interface" [⟨"1",.single "name" (.text "2")⟩,⟨"2",.empty⟩]) = none := by
  decide +kernel

end Setting

end Hostkeeper
