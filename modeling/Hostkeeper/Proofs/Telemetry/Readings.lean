import Hostkeeper.Proofs.Decimal.Finite
import Hostkeeper.Proofs.Host.Files
import Hostkeeper.Proofs.Ovsdb.Server
import Hostkeeper.Proofs.Store.Returned
import Hostkeeper.Proofs.Telemetry.Publisher
import Hostkeeper.Proofs.Text.Numeral

/-! What becomes of the texts that the publisher reads. The temperature and the memory are numbers whatever the files
say, and the load is one unless its word stands for an infinity or for no number. Such a load is taken for a reading,
and publishing it clears the column. -/
namespace Hostkeeper

namespace Json

def isNumber : Json → Bool
  | .int _ => true
  | .real x => x.isFinite
  | _ => false

def numeric (value : Json) : Json := if value.isNumber then value else .null

theorem isNumber_or_null (value : Json) : value.numeric.isNumber ∨ value.numeric = .null := by
  unfold numeric
  split
  next number => exact .inl number
  next => exact .inr rfl

theorem isAtom_of_isNumber {value : Json} (number : value.isNumber) : value.IsAtom := by
  cases value with
  | int | real => trivial
  | null | bool | text | list | object => cases number

end Json

namespace Wire

def unset : Json := .list [.text "set",.list []]

/-- What the request of a write sends for a column. -/
def sent? (w : Write) (column : String) : Option Json := ((writeRequest w).field? "row").bind (·.field? column)

variable {fields : Fields}

theorem sent?_update (table : String) (id : RowId) (column : String) :
    sent? (.update table id fields) column = (fields.get? column).map encode := by
  rw [sent?,Ovsdb.field?_updateRequest]
  change (Json.ofFields (Ovsdb.updateColumns fields)).field? column = _
  rw [Json.field?_ofFields,Ovsdb.updateColumns,KeyMap.get?_map]

theorem sent?_insert (table column : String) : sent? (.insert table fields) column =
    ((fields.get? column).filter fun value => !value.isNull).map encode := by
  rw [sent?,Ovsdb.field?_insertRequest]
  change (Json.ofFields (Ovsdb.insertColumns fields)).field? column = _
  rw [Json.field?_ofFields,Ovsdb.insertColumns,KeyMap.get?_map,KeyMap.get?_filter]

theorem encode_number {value : Json} (number : value.isNumber) :
    encode value = value ∧ value ≠ unset ∧ value ≠ .null := by
  refine ⟨encode_atom value (Json.isAtom_of_isNumber number),?_,?_⟩
  · rintro rfl
    cases number
  · rintro rfl
    cases number

/-- Numbers are sent as they are. A null unsets the column if the row is there already, and is left out if it is not. -/
theorem sent?_upsert (table : String)
    (numbers : ∀ column value, fields.get? column = some value → value.isNumber ∨ value = .null)
    (existing : Option RowId) (column : String) :
    (∀ datum, sent? (.upsert table existing fields) column = some datum → datum.isNumber ∨ datum = unset) ∧
    (sent? (.upsert table existing fields) column = some unset ↔
      existing.isSome ∧ fields.get? column = some .null) := by
  have each := numbers column
  generalize set : fields.get? column = found at each
  -- An update sends its nulls and an insertion leaves them out, so that only the first of the two can unset a column.
  cases existing with
  | some id =>
    rw [Write.upsert,sent?_update,set]
    cases found with
    | none => simp
    | some value =>
      rcases each value rfl with number | rfl
      · obtain ⟨same,filled,valued⟩ := encode_number number
        simp [same,filled,valued,number]
      · simp [encode,unset]
  | none =>
    rw [Write.upsert,sent?_insert,set]
    cases found with
    | none => simp
    | some value =>
      rcases each value rfl with number | rfl
      · obtain ⟨same,filled,_⟩ := encode_number number
        have kept : value.isNull = false := by cases value <;> first | rfl | cases number
        simp [Option.filter,kept,same,filled,number]
      · simp [Option.filter,Json.isNull]

end Wire

namespace Sample

variable {s : Sample}

theorem published?_eq_numeric : s.published? = fun column => (s.reading? column).map .numeric := by
  funext column
  simp only [published?,reading?,apply_ite (Option.map Json.numeric),Option.map_map,Option.map_none]
  rfl

theorem isNumber_or_null {column : String} {value : Json} (published : s.published? column = some value) :
    value.isNumber ∨ value = .null := by
  rw [published?_eq_numeric] at published
  obtain ⟨read,_,rfl⟩ := Option.map_eq_some_iff.mp published
  exact read.isNumber_or_null

theorem published?_eq_null_iff (warm : ∀ x ∈ s.temp, x.isFinite) {column : String} :
    s.published? column = some .null ↔ column = "cpu_load" ∧ ∃ x ∈ s.cpuLoad, ¬x.isFinite := by
  unfold published?
  split
  next load => simp [load,Json.ofBinary64]
  next other =>
    refine iff_of_false ?_ fun both => other both.1
    split
    · intro null
      obtain ⟨x,read,cleared⟩ := Option.map_eq_some_iff.mp null
      rw [Json.ofBinary64,if_pos (warm x read)] at cleared
      cases cleared
    · split
      · intro null
        obtain ⟨n,_,cleared⟩ := Option.map_eq_some_iff.mp null
        cases cleared
      · intro null
        cases null

theorem published_are_numbers_iff (warm : ∀ x ∈ s.temp, x.isFinite) :
    (∀ column value, s.published? column = some value → value.isNumber) ↔ ∀ x ∈ s.cpuLoad, x.isFinite := by
  constructor
  · intro numbers x read
    by_contra infinite
    exact absurd (numbers "cpu_load" .null ((published?_eq_null_iff warm).mpr ⟨rfl,x,read,infinite⟩)) (by decide)
  · intro finite column value published
    rcases isNumber_or_null published with number | rfl
    · exact number
    · obtain ⟨_,x,read,infinite⟩ := (published?_eq_null_iff warm).mp published
      exact absurd (finite x read) infinite

end Sample

namespace Telemetry

open Memory

variable {files : FileTree} {roots : Roots} {taken : Sample}

theorem isFinite_of_readTemperature {root : String} {x : Binary64} (read : readTemperature files root = some x) :
    x.isFinite := by
  obtain ⟨names,_,found⟩ := Option.bind_eq_some_iff.mp read
  obtain ⟨name,_,zone⟩ := List.exists_of_findSome?_eq_some found
  obtain ⟨content,_,zone⟩ := Option.bind_eq_some_iff.mp zone
  obtain ⟨millidegrees,number,same⟩ := Option.bind_eq_some_iff.mp zone
  cases same
  have bound : millidegrees.natAbs ≤ UInt64.size / 2 := by
    cases numeral : Text.readInt64 (Text.trim content) with
    | error e =>
      rw [numeral] at number
      cases number
    | ok n =>
      rw [numeral] at number
      cases number
      exact Text.natAbs_of_readInt64 numeral
  exact Binary64.isFinite_div_thousand (Binary64.isFinite_ofInt (Nat.lt_of_le_of_lt bound (by decide)))

/-- For any files, what is published for a column is its reading, or null if that is no number. Of all the columns only
the load can be null, and then an update unsets the column of a row that is there. A column that has no reading is in no
request, and a tick leaves it as it is. -/
theorem only_the_load_is_ever_cleared (measured : sample files roots = taken) :
    (∀ column, taken.fields.get? column = (taken.reading? column).map .numeric) ∧
    ((∀ column value, taken.fields.get? column = some value → value.isNumber) ↔ ∀ x ∈ taken.cpuLoad, x.isFinite) ∧
    (∀ s, ∀ w ∈ (transaction taken s).writes, ∀ column,
      (∀ datum, Wire.sent? w column = some datum → datum.isNumber ∨ datum = Wire.unset) ∧
      (Wire.sent? w column = some Wire.unset ↔ (∃ id, w = .update table id taken.fields) ∧
        column = "cpu_load" ∧ ∃ x ∈ taken.cpuLoad, ¬x.isFinite)) ∧
    (∀ l : ReconcileLoop Session FileTree, l.state = files → l.store.db.Lone table → ¬l.store.db.failingRuns > 0 →
      ¬taken.isEmpty → ∃ row t, (l.tick (domain (sample · roots))).1 = .synced (SyncReport.recordApplied {}) ∧
        (l.tick (domain (sample · roots))).2.store.db.commits = l.store.db.commits ++ [t] ∧
        Database.Upserted table (fun column => (taken.reading? column).map .numeric) l.store.db
          (l.tick (domain (sample · roots))).2.store.db row) := by
  have warm : ∀ x ∈ taken.temp, x.isFinite := by
    rw [← measured]
    exact fun x read => isFinite_of_readTemperature read
  rw [taken.get?_published]
  refine ⟨fun column => by rw [Sample.published?_eq_numeric],Sample.published_are_numbers_iff warm,?_,?_⟩
  · intro s w member column
    obtain rfl := List.mem_singleton.mp member
    have numbers (column : String) (value : Json) (published : taken.fields.get? column = some value) :=
      Sample.isNumber_or_null (taken.get?_published ▸ published)
    obtain ⟨datum,cleared⟩ := Wire.sent?_upsert table numbers
      (((s.table? table).bind (·.first?)).map (·.id)) column
    refine ⟨datum,cleared.trans (and_congr ?_ ?_)⟩
    · cases ((s.table? table).bind (·.first?)).map (·.id) <;> simp [Write.upsert]
    · rw [taken.get?_published]
      exact Sample.published?_eq_null_iff warm
  · rintro l rfl lone working filled
    rw [← measured] at filled
    obtain ⟨after,row,report,rfl,logged,_,set⟩ := tick_upserts (sample · roots) lone working filled
    rw [measured,Sample.published?_eq_numeric] at set
    exact ⟨row,_,report,logged,set⟩

def rootFiles (load memory : String) : FileTree :=
  ⟨.ofList [("/loadavg",.file (Text.Utf8.encode load) false),("/meminfo",.file (Text.Utf8.encode memory) false)],[]⟩

def flat : Roots := ⟨"/","/thermal"⟩

theorem sample_rootFiles (load memory : String) : sample (rootFiles load memory) flat =
    {cpuLoad := (Text.Utf8.decode? (Text.Utf8.encode load)).bind parseLoad,
      ramFree := (Text.Utf8.decode? (Text.Utf8.encode memory)).bind parseMemory} := by
  have rooted : Rooted "/loadavg" "loadavg" false ∧ Rooted "/meminfo" "meminfo" false ∧
      Rooted "/thermal" "thermal" false := by
    refine ⟨?_,?_,?_⟩ <;>
      exact ⟨by simp,by decide +kernel,by decide +kernel,by decide +kernel,by decide +kernel,by decide +kernel⟩
  have paths : Location.path ["loadavg"] = "/loadavg" ∧ Location.path ["meminfo"] = "/meminfo" ∧
      Location.path ["thermal"] = "/thermal" := by decide +kernel
  have joined : joinPath flat.proc "loadavg" = "/loadavg" ∧ joinPath flat.proc "meminfo" = "/meminfo" := by
    decide +kernel
  have node (name : String) : (rootFiles load memory).node? [name] = lookupEntry (Location.path [name])
      [("/meminfo",.file (Text.Utf8.encode memory) false),("/loadavg",.file (Text.Utf8.encode load) false)] := by
    change (KeyMap.ofList _).get? _ = _
    rw [KeyMap.get?_ofList]
    rfl
  have cold : readTemperature (rootFiles load memory) flat.thermal = none := by
    have absent := FileTree.look_of_rooted_absent rooted.2.2 (by rw [node,paths.2.2]; rfl)
    simp [readTemperature,FileTree.list,flat,absent,bind,Except.bind,Except.toOption]
  rw [sample,joined.1,joined.2,cold,FileTree.readText_of_rooted rooted.1 (by rw [node,paths.1]; rfl),
    FileTree.readText_of_rooted rooted.2.1 (by rw [node,paths.2.1]; rfl)]

/-- A row with a load of one half and some memory. -/
def halfLoaded : Session :=
  Call.perform (.insert "Telemetry" (.ofList [("cpu_load",.real ⟨0x3FE0000000000000⟩),("ram_free",.int 1024)]))
    (.new ["Telemetry"])

theorem lone_halfLoaded : halfLoaded.db.Lone table := ⟨by decide +kernel,by decide +kernel,rfl⟩

def quarterFiles : FileTree := rootFiles "0.25 0.36 0.30 1/321 4242\n" "MemAvailable: many kB\n"

/-- The load is read and the memory is not, so that the memory stays. -/
theorem unread_memory_is_kept : sample quarterFiles flat = {cpuLoad := some ⟨0x3FD0000000000000⟩} ∧
    ∃ row,
      ((ReconcileLoop.new halfLoaded quarterFiles).tick (domain (sample · flat))).2.store.db.rows "Telemetry" = [row] ∧
      row.fields.get? "cpu_load" = some (.real ⟨0x3FD0000000000000⟩) ∧
      row.fields.get? "ram_free" = some (.int 1024) := by
  have measured : sample quarterFiles flat = {cpuLoad := some ⟨0x3FD0000000000000⟩} := by
    rw [quarterFiles,sample_rootFiles]
    decide +kernel
  obtain ⟨row,t,_,_,set⟩ := (only_the_load_is_ever_cleared measured).2.2.2 (.new halfLoaded quarterFiles) rfl
    lone_halfLoaded (by decide +kernel) (by decide)
  refine ⟨measured,row,set.rows_eq,?_,?_⟩ <;> rw [set.columns] <;> decide +kernel

def undefinedFiles : FileTree := rootFiles "nan 0.00 0.00 1/100 42\n" "MemAvailable:    2048 kB\n"

/-- The load's word stands for no number. The request unsets the column, and the load that stood in it is lost. -/
theorem undefined_load_is_cleared : (sample undefinedFiles flat).fields.get? "cpu_load" = some .null ∧
    Wire.sent? (.update table (rowId 1) (sample undefinedFiles flat).fields) "cpu_load" = some Wire.unset ∧
    ∃ row,
      ((ReconcileLoop.new halfLoaded undefinedFiles).tick (domain (sample · flat))).2.store.db.rows "Telemetry" =
        [row] ∧
      row.id = rowId 1 ∧ row.fields.get? "cpu_load" = some .null := by
  have measured : sample undefinedFiles flat = {cpuLoad := some .nan,ramFree := some 2048} := by
    rw [undefinedFiles,sample_rootFiles]
    decide +kernel
  have rows : halfLoaded.db.rows table =
      [⟨rowId 1,.ofList [("cpu_load",.real ⟨0x3FE0000000000000⟩),("ram_free",.int 1024)]⟩] := by decide +kernel
  have published : (sample undefinedFiles flat).published? "cpu_load" = some .null := by
    rw [measured]
    decide +kernel
  obtain ⟨after,row,_,rfl,_,_,set⟩ := tick_upserts (sample · flat) (l := .new halfLoaded undefinedFiles) lone_halfLoaded
    (by decide +kernel) (by rw [ReconcileLoop.new,measured]; decide)
  refine ⟨by rw [Sample.get?_published,published],?_,row,set.rows_eq,?_,?_⟩
  · rw [Wire.sent?_update,Sample.get?_published,published]
    rfl
  · exact set.same_row _ (rows ▸ List.mem_cons_self)
  · rw [set.columns,ReconcileLoop.new,published]
    rfl

end Telemetry

end Hostkeeper
