import Hostkeeper.Operator.Session
import Hostkeeper.Proofs.Operator.Setting
import Hostkeeper.Proofs.Operator.Targets
import Hostkeeper.Proofs.Reconcile.Tick

/-! Settings made one after another on a store in memory, each from a fresh snapshot. The row that a setting goes
to is found again by the settings after it, so that a name keeps one row, which has in each column what was set
there last. -/
namespace Hostkeeper.Operator

open Memory Setting

/-- What setting a field does with a store, once it is connected. -/
def setIn {σ : Type} [StoreClient σ] (r : Resource) (name key : String) (value : Json) (store : σ) :
    Except Failure CommitStatus × σ :=
  match StoreClient.run store with
  | (.error e,store) => (.error (.readTable r.table.name e),store)
  | (.ok (),store) =>
    match StoreClient.table store r.table.name with
    | .error e => (.error (.store e),store)
    | .ok snapshot =>
      match StoreClient.commit (upsert r name snapshot key value) store with
      | (.error e,store) => (.error (.store e),store)
      | (.ok status,store) => (.ok status,store)

theorem setField_eq {ω : Type} (program : String → Ovsdb.Program ω) (o : Options) {r : Resource} (name : String)
    {key raw : String} {value : Json} {session : Ovsdb.Session ω} {world after : ω}
    (accepted : coerce r key raw = .ok value)
    (connected : Ovsdb.Session.connect (program (clientConfig o r.table.name).clientBin) (clientConfig o r.table.name)
      world = (.ok session,after)) :
    setField program o r name key raw world =
      match setIn r name key value session with
      | (.error e,session) => (.error e,session.world)
      | (.ok status,session) =>
        (if status.isSuccess then .ok (updatedMessage r name key) else .error (.commit status),session.world) := by
  have run : StoreClient.run session = session.run := rfl
  simp only [setField,accepted,openTable,connected,setIn,run]
  rcases session.run with ⟨_ | _,session⟩
  · rfl
  · dsimp only
    cases StoreClient.table session r.table.name with
    | error => rfl
    | ok snapshot =>
      dsimp only
      rcases StoreClient.commit (upsert r name snapshot key value) session with ⟨_ | _,session⟩ <;> rfl

structure Assignment where
  resource : Resource
  name : String
  key : String
  raw : String
  value : Json
  accepted : coerce resource key raw = .ok value

namespace Assignment

def table (a : Assignment) : String := a.resource.table.name

def address (a : Assignment) : String := a.resource.address a.name

def perform (a : Assignment) (s : Session) : Except Failure CommitStatus × Session :=
  setIn a.resource a.name a.key a.value s

theorem key_ne_name (a : Assignment) : a.key ≠ "name" := by
  intro same
  have accepted := a.accepted
  rw [same] at accepted
  revert accepted
  cases a.resource <;> simp [coerce,reader?]

end Assignment

/-- The columns that a row is made with, apart from the one that is set. -/
def blank (r : Resource) (address : String) : Fields := if r = .system then .empty else .single "name" (.text address)

/-- One row has been written: the row that the setting is meant for, or a new one where there was none. -/
structure Written (a : Assignment) (before after : Tables) (id : RowId) (fields : Fields) : Prop where
  rows (table : String) (i : RowId) :
    row? after table i = if table = a.table ∧ i = id then some fields else row? before table i
  columns (column : String) : fields.get? column =
    if column = a.key then some a.value else ((row? before a.table id).getD (blank a.resource a.address)).get? column
  same {old : Fields} : row? before a.table id = some old → RowAt before a.resource a.address id old
  only {i : RowId} {old : Fields} : RowAt before a.resource a.address i old → i = id

namespace Written

variable {a : Assignment} {before after : Tables} {id : RowId} {fields : Fields}
  (written : Written a before after id fields)

include written

theorem rowAt : RowAt after a.resource a.address id fields := by
  have held := written.rows a.table id
  rw [if_pos ⟨rfl,rfl⟩] at held
  refine ⟨held,?_⟩
  unfold Resource.address?
  have named := written.columns "name"
  rw [if_neg a.key_ne_name.symm] at named
  by_cases system : a.resource = .system
  · rw [if_pos system,Assignment.address,Resource.address,if_pos system]
  · rw [if_neg system,named]
    cases found : row? before a.table id with
    | none => simp [blank,system,KeyMap.single,Json.text?]
    | some old =>
      have address := (written.same found).named
      rwa [Resource.address?,if_neg system] at address

theorem row?_of_ne {table : String} {i : RowId} (other : ¬(table = a.table ∧ i = id)) :
    row? after table i = row? before table i := by rw [written.rows,if_neg other]

theorem rowAt_of_ne {r : Resource} {address : String} {i : RowId} {old : Fields}
    (other : ¬(r = a.resource ∧ address = a.address)) (place : RowAt before r address i old) :
    RowAt after r address i old := by
  refine ⟨?_,place.named⟩
  rw [written.row?_of_ne,place.held]
  rintro ⟨table,rfl⟩
  obtain rfl := Resource.table_name_injective table
  exact other ⟨rfl,place.address_eq (written.same place.held)⟩

theorem unshared (alone : Unshared before) : Unshared after := by
  intro r address i j first second one two
  have back {k : RowId} {f : Fields} (place : RowAt after r address k f) :
      (r = a.resource ∧ address = a.address ∧ k = id) ∨ RowAt before r address k f := by
    by_cases here : r.table.name = a.table ∧ k = id
    · obtain rfl := Resource.table_name_injective here.1
      obtain rfl := here.2
      exact .inl ⟨rfl,place.address_eq written.rowAt,rfl⟩
    · exact .inr ⟨written.row?_of_ne here ▸ place.held,place.named⟩
  rcases back one with ⟨rfl,rfl,rfl⟩ | one <;> rcases back two with ⟨same,address,rfl⟩ | two
  · rfl
  · exact (written.only two).symm
  · subst same address
    exact written.only one
  · exact alone r address i j first second one two

theorem findable {r : Resource} {name : String} (own : Findable before a.resource a.name)
    (findable : Findable before r name) : Findable after r name := by
  rcases findable with system | ⟨filled,named⟩
  · exact .inl system
  · refine or_iff_not_imp_left.mpr fun keyed => ⟨filled,?_⟩
    rw [written.rows]
    split
    next here =>
      obtain rfl := Resource.table_name_injective here.1
      have address := written.rowAt.named
      rw [Resource.address?,if_neg keyed,Assignment.address,Resource.address,if_neg keyed] at address
      exact Row.isSome_name?_of_column (own.filled.resolve_left keyed) address
    next => exact named

end Written

/-- A store that answers and has the tables of all resources, with no two rows of the same name. -/
structure Ready (db : Database) : Prop where
  issued : db.Issued
  working : db.failingRuns = 0
  free : db.forcedStatus = none
  present (r : Resource) : db.tables.contains r.table.name
  unshared : Unshared db.tables

namespace Assignment

variable (a : Assignment) {db : Database} {s : Session}

def transaction (db : Database) : Transaction :=
  upsert a.resource a.name (.ofRows a.table (db.rows a.table)) a.key a.value

theorem perform_eq (ready : Ready s.db) : a.perform s =
    (.ok (s.db.commit (a.transaction s.db)).1,{s.current with db := (s.db.commit (a.transaction s.db)).2}) := by
  have run : StoreClient.run s = (.ok (),s.current) := s.run_current (by simp [ready.working])
  have table := s.table_current a.resource.table.name
  rw [if_pos (ready.present a.resource)] at table
  unfold perform setIn
  rw [run]
  dsimp only
  rw [table]
  rfl

theorem written_update {id : RowId} {old : Fields} (unshared : Unshared db.tables)
    (place : RowAt db.tables a.resource a.address id old) :
    Written a db.tables (db.setColumns a.table id (.single a.key a.value)).tables id
      (old.merge (.single a.key a.value)) where
  rows table i := by
    change row? (mergeRow db.tables a.table id (.single a.key a.value)) table i = _
    rw [row?_mergeRow,show row? db.tables a.table id = some old from place.held]
    rfl
  columns column := by
    rw [KeyMap.get?_merge,KeyMap.single,KeyMap.get?_insert,KeyMap.get?_empty,
      show row? db.tables a.table id = some old from place.held]
    split <;> rfl
  same {again} held := by
    obtain rfl := Option.some.inj (place.held.symm.trans held)
    exact place
  only other := unshared _ _ _ _ _ _ other place

theorem written_insert (issued : db.Issued) (absent : ∀ id fields, ¬RowAt db.tables a.resource a.address id fields) :
    Written a db.tables (db.addRow a.table (newRow a.resource a.name a.key a.value)).tables (rowId (db.lastId + 1))
      (newRow a.resource a.name a.key a.value) := by
  have fresh : row? db.tables a.table (rowId (db.lastId + 1)) = none := by
    by_contra held
    exact issued.not_held (Nat.lt_succ_self _) ⟨a.table,Option.isSome_iff_ne_none.mpr held⟩
  refine ⟨row?_putRow db.tables a.table _ _,fun column => ?_,fun held => ?_,fun place => absurd place (absent _ _)⟩
  · rw [get?_newRow,fresh,Option.getD_none]
    by_cases system : a.resource = .system
    · simp [blank,system]
    · simp [blank,system,address,Resource.address,KeyMap.single]
  · rw [fresh] at held
    cases held

/-- A setting makes one write, which fits the tables. -/
theorem exists_write (ready : Ready db) (findable : Findable db.tables a.resource a.name) :
    ∃ w, a.transaction db = ⟨[w]⟩ ∧ db.Fits w ∧ ¬w.isEmpty ∧
      ∃ id fields, Written a db.tables (db.applyWrite w).tables id fields := by
  by_cases there : ∃ id old, RowAt db.tables a.resource a.address id old
  · obtain ⟨id,old,place⟩ := there
    refine ⟨.update a.table id (.single a.key a.value),?_,?_,?_,id,_,a.written_update ready.unshared place⟩
    · rw [transaction,upsert,show a.table = a.resource.table.name from rfl,
        target?_of_rowAt ready.unshared findable place]
      rfl
    · exact Option.isSome_iff_exists.mpr ⟨old,place.held⟩
    · simp [Write.isEmpty,KeyMap.isEmpty,KeyMap.single,KeyMap.insert,KeyMap.empty,insertEntry]
  · have absent (id fields) (place : RowAt db.tables a.resource a.address id fields) := there ⟨id,fields,place⟩
    refine ⟨.insert a.table (newRow a.resource a.name a.key a.value),?_,ready.present a.resource,
      by simp [Write.isEmpty],_,_,a.written_insert ready.issued absent⟩
    exact upsert_newRow (target?_of_absent findable.filled absent) a.key a.value

theorem perform_spec (ready : Ready s.db) (findable : Findable s.db.tables a.resource a.name) :
    ∃ after id fields, a.perform s = (.ok .success,after) ∧ Ready after.db ∧
      Written a s.db.tables after.db.tables id fields := by
  obtain ⟨w,only,fits,writes,id,fields,written⟩ := a.exists_write ready findable
  have committed := Database.commit_write ready.free fits writes
  have later := s.db.later_commit (a.transaction s.db)
  have performed := a.perform_eq ready
  rw [only,committed] at performed later
  have tables : (((s.db.logged ⟨[w]⟩).applyWrite w).bump).tables = (s.db.applyWrite w).tables := by cases w <;> rfl
  refine ⟨_,id,fields,performed,⟨later.issued ready.issued,?_,?_,fun r => ?_,?_⟩,?_⟩
  · cases w <;> exact ready.working
  · cases w <;> exact ready.free
  · change (((s.db.logged ⟨[w]⟩).applyWrite w).bump).tables.contains r.table.name
    rw [tables]
    exact Database.Fits.applyWrite (w := .insert r.table.name .empty) (ready.present r) w
  · exact tables ▸ written.unshared ready.unshared
  · exact tables ▸ written

end Assignment

/-- The value that was last set in a column for a name. -/
def lastSet? (assignments : List Assignment) (r : Resource) (address column : String) : Option Json :=
  (assignments.reverse.find? fun a => a.resource = r ∧ a.address = address ∧ a.key = column).map (·.value)

theorem lastSet?_append (assignments : List Assignment) (a : Assignment) (r : Resource) (address column : String) :
    lastSet? (assignments ++ [a]) r address column =
      if a.resource = r ∧ a.address = address ∧ a.key = column then some a.value
      else lastSet? assignments r address column := by
  rw [lastSet?,List.reverse_append,List.reverse_singleton,List.singleton_append,List.find?_cons]
  split
  next sets => rw [if_pos (by simpa using sets),Option.map_some]
  next other => rw [if_neg (by simpa using other),lastSet?]

theorem lastSet?_of_unset {assignments : List Assignment} {r : Resource} {address : String}
    (unset : ∀ a ∈ assignments, ¬(a.resource = r ∧ a.address = address)) (column : String) :
    lastSet? assignments r address column = none := by
  rw [lastSet?,List.find?_eq_none.mpr,Option.map_none]
  intro a member sets
  have both : a.resource = r ∧ a.address = address ∧ a.key = column := by simpa using sets
  exact unset a (List.mem_reverse.mp member) ⟨both.1,both.2.1⟩

/-- The row of a name has in each column what was last set there. In the other columns it has what it had before,
or what a new row is made with. -/
structure Holds (assignments : List Assignment) (before after : Tables) (r : Resource) (address : String) (id : RowId)
    (fields : Fields) : Prop where
  place : RowAt after r address id fields
  same {old : Fields} : row? before r.table.name id = some old → RowAt before r address id old
  only {i : RowId} {old : Fields} : RowAt before r address i old → i = id
  columns (column : String) : fields.get? column = (lastSet? assignments r address column).or
    (((row? before r.table.name id).getD (blank r address)).get? column)

/-- Every name that was set has its row, and the rows of no other name have changed. -/
structure Settled (assignments : List Assignment) (before after : Tables) : Prop where
  set {a : Assignment} : a ∈ assignments → ∃ id fields, Holds assignments before after a.resource a.address id fields
  kept {table : String} {id : RowId} : (∀ a ∈ assignments, a.table = table →
    ∀ fields, ¬RowAt after a.resource a.address id fields) → row? after table id = row? before table id

namespace Settled

variable {assignments : List Assignment} {before middle after : Tables} {a : Assignment} {id : RowId} {fields : Fields}
  {r : Resource} {address : String}

theorem nil (tables : Tables) : Settled [] tables tables := ⟨fun member => (List.not_mem_nil member).elim,fun _ => rfl⟩

theorem kept_after (settled : Settled assignments before middle)
    (unset : ∀ a ∈ assignments, ¬(a.resource = r ∧ a.address = address)) (place : RowAt middle r address id fields) :
    row? middle r.table.name id = row? before r.table.name id := by
  refine settled.kept fun c member table other there => unset c member ?_
  obtain rfl := Resource.table_name_injective table
  exact ⟨rfl,there.address_eq place⟩

/-- What a name that was not set had before, it has still. -/
theorem kept_before (settled : Settled assignments before middle) (unshared : Unshared middle)
    (unset : ∀ a ∈ assignments, ¬(a.resource = r ∧ a.address = address)) (place : RowAt before r address id fields) :
    row? middle r.table.name id = row? before r.table.name id := by
  refine settled.kept fun c member table other there => unset c member ?_
  obtain rfl := Resource.table_name_injective table
  obtain ⟨i,_,holds⟩ := settled.set member
  obtain rfl := unshared _ _ _ _ _ _ holds.place there
  exact ⟨rfl,(holds.same place.held).address_eq place⟩

theorem holds_written (settled : Settled assignments before middle) (unshared : Unshared middle)
    (written : Written a middle after id fields) :
    Holds (assignments ++ [a]) before after a.resource a.address id fields := by
  have last (column : String) : lastSet? (assignments ++ [a]) a.resource a.address column =
      if column = a.key then some a.value else lastSet? assignments a.resource a.address column := by
    simp [lastSet?_append,eq_comm]
  by_cases set : ∃ c ∈ assignments, c.resource = a.resource ∧ c.address = a.address
  · obtain ⟨c,member,resource,address⟩ := set
    obtain ⟨i,old,holds⟩ := settled.set member
    rw [resource,address] at holds
    obtain rfl := written.only holds.place
    refine ⟨written.rowAt,holds.same,holds.only,fun column => ?_⟩
    rw [written.columns,last,show row? middle a.table i = some old from holds.place.held,Option.getD_some,holds.columns]
    split <;> rfl
  · have unset : ∀ c ∈ assignments, ¬(c.resource = a.resource ∧ c.address = a.address) := by simpa using set
    have kept : row? middle a.table id = row? before a.table id := by
      cases found : row? middle a.table id with
      | none =>
        refine found ▸ settled.kept fun c _ table other there => ?_
        have held := there.held
        rw [show c.resource.table.name = a.table from table,found] at held
        cases held
      | some old => exact found ▸ settled.kept_after unset (written.same found)
    refine ⟨written.rowAt,fun held => ⟨held,(written.same (kept.trans held)).named⟩,fun place => ?_,fun column => ?_⟩
    · exact written.only ⟨(settled.kept_before unshared unset place).trans place.held,place.named⟩
    · rw [written.columns,last,lastSet?_of_unset unset,kept]
      split <;> rfl

theorem append (settled : Settled assignments before middle) (unshared : Unshared middle)
    (written : Written a middle after id fields) : Settled (assignments ++ [a]) before after where
  set {b} member := by
    by_cases same : b.resource = a.resource ∧ b.address = a.address
    · rw [same.1,same.2]
      exact ⟨id,fields,settled.holds_written unshared written⟩
    · have earlier : b ∈ assignments := by
        rcases List.mem_append.mp member with earlier | last
        · exact earlier
        · exact absurd (List.mem_singleton.mp last ▸ ⟨rfl,rfl⟩) same
      obtain ⟨i,old,holds⟩ := settled.set earlier
      refine ⟨i,old,written.rowAt_of_ne same holds.place,holds.same,holds.only,fun column => ?_⟩
      rw [lastSet?_append,if_neg fun sets => same ⟨sets.1.symm,sets.2.1.symm⟩,holds.columns]
  kept {table i} free := by
    have elsewhere : ¬(table = a.table ∧ i = id) := by
      rintro ⟨rfl,rfl⟩
      exact free a (by simp) rfl fields written.rowAt
    rw [written.row?_of_ne elsewhere]
    refine settled.kept fun c member same old there => free c (List.mem_append_left _ member) same old ?_
    subst same
    exact ⟨(written.row?_of_ne elsewhere).trans there.held,there.named⟩

end Settled

def performAll : List Assignment → Session → List (Except Failure CommitStatus) × Session
  | [], s => ([],s)
  | a :: rest, s =>
    let (answer,s) := a.perform s
    let (answers,s) := performAll rest s
    (answer :: answers,s)

theorem performAll_spec {before : Tables} (earlier assignments : List Assignment) (s : Session) (ready : Ready s.db)
    (findable : ∀ a ∈ assignments, Findable s.db.tables a.resource a.name)
    (settled : Settled earlier before s.db.tables) :
    (performAll assignments s).1 = assignments.map (fun _ => .ok .success) ∧
      Ready (performAll assignments s).2.db ∧
      Settled (earlier ++ assignments) before (performAll assignments s).2.db.tables := by
  -- The settings before are carried along, since a name may have been set by any of them.
  induction assignments generalizing earlier s with
  | nil => exact ⟨rfl,ready,(List.append_nil earlier).symm ▸ settled⟩
  | cons a rest ih =>
    have own := findable a List.mem_cons_self
    obtain ⟨after,id,fields,performed,again,written⟩ := a.perform_spec ready own
    have still : ∀ b ∈ rest, Findable after.db.tables b.resource b.name := fun b member =>
      written.findable own (findable b (List.mem_cons_of_mem a member))
    obtain ⟨answers,last,all⟩ := ih (earlier ++ [a]) after again still (settled.append ready.unshared written)
    rw [List.append_assoc,List.singleton_append] at all
    rw [performAll,performed]
    exact ⟨congrArg (_ :: ·) answers,last,all⟩

/-- Settings that are accepted are all committed, on a store whose tables have no two rows of the same name, and
there are no two afterwards. The row of each name that was set has in each column what was last set there, it is
the row that had the name before if there was one, and nothing else has changed. This is for names that a snapshot
can find a row by. -/
theorem settings_keep_one_row_per_name (tables : List String) (s : Session) (reached : Steps (.new tables) s)
    (working : s.db.failingRuns = 0) (free : s.db.forcedStatus = none)
    (present : ∀ r : Resource, s.db.tables.contains r.table.name) (unshared : Unshared s.db.tables)
    (assignments : List Assignment) (findable : ∀ a ∈ assignments, Findable s.db.tables a.resource a.name) :
    (performAll assignments s).1 = assignments.map (fun _ => .ok .success) ∧
      Unshared (performAll assignments s).2.db.tables ∧
      Settled assignments s.db.tables (performAll assignments s).2.db.tables := by
  have ready : Ready s.db := ⟨reached.issued,working,free,present,unshared⟩
  obtain ⟨answers,last,settled⟩ := performAll_spec [] assignments s ready findable (.nil _)
  exact ⟨answers,last.unshared,settled⟩

/-- A store with the tables that an operator writes to. -/
def unfurnished : Session := .new ["System","Interface","VirtualMachine"]

def furnished : Session :=
  Call.perform (.insert "Interface" (.ofList [("name",.text "eth0"),("mtu",.int 1400)])) unfurnished

def changes : List Assignment := [⟨.interface,"eth0","mtu","9000",.int 9000,by decide +kernel⟩,
  ⟨.vm,"vm1","cpu","2",.int 2,by decide +kernel⟩,⟨.interface,"eth0","mtu","1500",.int 1500,by decide +kernel⟩]

theorem interface_has_its_last_mtu : Steps unfurnished furnished ∧ furnished.db.failingRuns = 0 ∧
    furnished.db.forcedStatus = none ∧ (∀ r : Resource, furnished.db.tables.contains r.table.name) ∧
    Unshared furnished.db.tables ∧ (∀ a ∈ changes, Findable furnished.db.tables a.resource a.name) ∧
    ∃ fields, row? (performAll changes furnished).2.db.tables "Interface" (rowId 1) = some fields ∧
      fields.get? "mtu" = some (.int 1500) ∧ fields.get? "name" = some (.text "eth0") := by
  have reached : Steps unfurnished furnished := .single (.own _ _)
  have present : ∀ r : Resource, furnished.db.tables.contains r.table.name := by intro r; cases r <;> decide +kernel
  have unshared : Unshared furnished.db.tables := unshared_of_nodup (by decide +kernel)
  have findable : ∀ a ∈ changes, Findable furnished.db.tables a.resource a.name := by decide +kernel
  obtain ⟨-,-,settled⟩ := settings_keep_one_row_per_name _ furnished reached rfl rfl present unshared changes findable
  obtain ⟨id,fields,holds⟩ := settled.set List.mem_cons_self
  have there : RowAt furnished.db.tables .interface "eth0" (rowId 1)
      (.ofList [("name",.text "eth0"),("mtu",.int 1400)]) := ⟨by decide +kernel,by decide +kernel⟩
  obtain rfl := holds.only there
  refine ⟨reached,rfl,rfl,present,unshared,findable,fields,holds.place.held,?_,?_⟩
  · rw [holds.columns]
    decide +kernel
  · rw [holds.columns]
    decide +kernel

def nameless : List Assignment := [⟨.interface,"","mtu","9000",.int 9000,by decide +kernel⟩,
  ⟨.interface,"","ip","10.0.0.5/24",.text "10.0.0.5/24",by decide +kernel⟩]

/-- No snapshot has a row by an empty name, so that each setting makes one more. -/
theorem empty_name_gets_a_row_for_each_setting : Unshared unfurnished.db.tables ∧
    (performAll nameless unfurnished).1.map Except.toOption = [some .success,some .success] ∧
    (performAll nameless unfurnished).2.db.rows "Interface" = [⟨rowId 1,.ofList [("name",.text ""),("mtu",.int 9000)]⟩,
      ⟨rowId 2,.ofList [("name",.text ""),("ip",.text "10.0.0.5/24")]⟩] ∧
    ¬Unshared (performAll nameless unfurnished).2.db.tables := by
  have rows : (performAll nameless unfurnished).2.db.rows "Interface" = [⟨rowId 1,.ofList [("name",.text ""),
      ("mtu",.int 9000)]⟩,⟨rowId 2,.ofList [("name",.text ""),("ip",.text "10.0.0.5/24")]⟩] := by decide +kernel
  have place (row : Row) (member : row ∈ (performAll nameless unfurnished).2.db.rows "Interface")
      (named : Resource.interface.address? row.fields = some "") :
      RowAt (performAll nameless unfurnished).2.db.tables .interface "" row.id row.fields :=
    ⟨(mem_rows_iff _ _ row).mp member,named⟩
  refine ⟨unshared_of_nodup (by decide +kernel),by decide +kernel,rows,fun unshared => ?_⟩
  rw [rows] at place
  have first := place _ List.mem_cons_self (by decide +kernel)
  have second := place _ (List.mem_cons_of_mem _ List.mem_cons_self) (by decide +kernel)
  exact absurd (unshared _ _ _ _ _ _ first second) (by decide +kernel)

end Hostkeeper.Operator
