import Hostkeeper.Proofs.Schema.Columns

/-! Which rows the tables accept. A table is a list of columns in key order, each with the place in the record where
it is kept. A row reads as the record that keeps all its columns, and the first column that cannot be taken is at
fault otherwise. So is a name that is needed and not there, but only if every column can be taken. -/
namespace Hostkeeper

open Column

/-- A column of a record, and where the record keeps it. -/
structure Slot (α : Type) where
  column : String
  {γ : Type}
  cell : Cell γ
  field : α → γ

namespace Slot

variable {α : Type} (slot : Slot α) (fields : Fields)

def Takes : Prop := slot.cell.Takes (fields.get? slot.column)

def Keeps (r : α) : Prop := slot.cell.Keeps (fields.get? slot.column) (slot.field r)

end Slot

section Reading

variable {α : Type} {fields : Fields} {slots : List (Slot α)}

/-- The fault of the first column that cannot be taken. -/
inductive FirstFault (fields : Fields) : List (Slot α) → ColumnFault → Prop
  | here {slot rest v} (present : fields.get? slot.column = some v) (not : ¬slot.Takes fields) :
      FirstFault fields (slot :: rest) (slot.cell.kind.fault v)
  | later {slot rest fault} (takes : slot.Takes fields) (first : FirstFault fields rest fault) :
      FirstFault fields (slot :: rest) fault

theorem FirstFault.not_takes {fault : ColumnFault} (first : FirstFault fields slots fault) :
    ¬∀ slot ∈ slots, slot.Takes fields := by
  induction first with
  | here _ not => exact fun takes => not (takes _ List.mem_cons_self)
  | later _ _ ih => exact fun takes => ih fun slot member => takes slot (List.mem_cons_of_mem _ member)

theorem FirstFault.of_same {other : Fields} {fault : ColumnFault} (first : FirstFault fields slots fault)
    (same : ∀ slot ∈ slots, other.get? slot.column = fields.get? slot.column) : FirstFault other slots fault := by
  induction first with
  | @here slot rest v present not =>
    have found := same slot List.mem_cons_self
    refine .here (found.trans present) ?_
    rwa [Slot.Takes,found]
  | @later slot rest fault takes _ ih =>
    have found := same slot List.mem_cons_self
    refine .later ?_ (ih fun slot member => same slot (List.mem_cons_of_mem _ member))
    rwa [Slot.Takes,found]

/-- A reading of some columns of a record, of which something is known from the columns read before. -/
structure Readout (fields : Fields) (known : α → Prop) (slots : List (Slot α)) (result : Except ColumnFault α) :
    Prop where
  ok_iff : ∀ r, result = .ok r ↔ known r ∧ ∀ slot ∈ slots, slot.Keeps fields r
  error_iff : ∀ fault, result = .error fault ↔ FirstFault fields slots fault

theorem Readout.nil {known : α → Prop} {r : α} (only : ∀ r', known r' ↔ r = r') :
    Readout fields known [] (pure r) where
  ok_iff r' := by
    rw [only]
    simp [pure,Except.pure]
  error_iff fault := ⟨nofun,nofun⟩

theorem Readout.cons {known : α → Prop} {slot : Slot α} {read : Except ColumnFault slot.γ}
    {next : slot.γ → Except ColumnFault α} (reads : slot.cell.Reads (fields.get? slot.column) read)
    (rest : ∀ x, Readout fields (fun r => known r ∧ slot.field r = x) slots (next x)) :
    Readout fields known (slot :: slots) (read >>= next) := by
  cases reads with
  | @kept x keeps =>
    -- The columns after this one are read knowing what it keeps, so a record that keeps them keeps it too.
    obtain ⟨okIff,errorIff⟩ := rest x
    refine ⟨fun r => ?_,fun fault => ?_⟩
    · change next x = .ok r ↔ _
      rw [okIff,List.forall_mem_cons,and_assoc]
      refine and_congr_right fun _ => and_congr_left fun _ => ?_
      constructor
      · rintro rfl
        exact keeps
      · exact fun same => same.unique keeps
    · change next x = .error fault ↔ _
      rw [errorIff]
      have takes : slot.Takes fields := Cell.takes_iff.mpr ⟨x,keeps⟩
      refine ⟨.later takes,fun first => ?_⟩
      cases first with
      | here _ not => exact absurd takes not
      | later _ first => exact first
  | @refused v present not =>
    refine ⟨fun r => ?_,fun fault => ?_⟩
    · refine ⟨nofun,fun kept => ?_⟩
      exact absurd (Cell.takes_iff.mpr ⟨_,kept.2 slot List.mem_cons_self⟩) not
    · constructor
      · intro same
        cases same
        exact .here present not
      · intro first
        cases first with
        | here also =>
          cases present.symm.trans also
          rfl
        | later takes => exact absurd takes not

end Reading

/-- A row has a name that is a text and not empty. -/
def Named (fields : Fields) : Prop := ∃ s, fields.get? "name" = some (.text s) ∧ s ≠ ""

theorem Column.Cell.Keeps.unnamed_iff {fields : Fields} {s : String} (keeps : Cell.name.Keeps (fields.get? "name") s) :
    ¬Named fields ↔ s = "" := by
  rw [not_iff_comm]
  constructor
  · intro filled
    unfold Named
    generalize fields.get? "name" = found at keeps
    cases keeps with
    | absent => exact absurd rfl filled
    | null nullable => cases nullable
    | value means => exact ⟨_,congrArg some means,filled⟩
  · rintro ⟨s',found,filled⟩
    rw [found] at keeps
    cases keeps with
    | value means =>
      cases means
      exact filled

section Rows

variable {α : Type} [Record α] {fields : Fields}

theorem decodeRow_eq_ok_iff {r : α} : decodeRow fields = .ok r ↔
    Record.read fields = .ok r ∧ ¬(Record.addressing α = .keyed ∧ (Record.name r).getD "" = "") := by
  unfold decodeRow
  cases Record.read (α := α) fields with
  | error => exact ⟨nofun,fun both => nomatch both.1⟩
  | ok r' =>
    dsimp only
    by_cases nameless : Record.addressing α = .keyed ∧ (Record.name r').getD "" = ""
    · rw [if_pos nameless]
      refine ⟨nofun,?_⟩
      rintro ⟨same,named⟩
      cases same
      exact absurd nameless named
    · rw [if_neg nameless,Except.ok.injEq,Except.ok.injEq]
      refine (and_iff_left_of_imp fun same => ?_).symm
      subst same
      exact nameless

theorem decodeRow_eq_error_iff {e : SchemaError} : decodeRow (α := α) fields = .error e ↔
    (∃ fault, Record.read (α := α) fields = .error fault ∧ e = .invalidRow (Record.table α) fault) ∨
    ∃ r : α, Record.read fields = .ok r ∧ (Record.addressing α = .keyed ∧ (Record.name r).getD "" = "") ∧
      e = .emptyName (Record.table α) := by
  unfold decodeRow
  cases Record.read (α := α) fields with
  | error fault =>
    constructor
    · intro same
      cases same
      exact .inl ⟨_,rfl,rfl⟩
    · rintro (⟨_,same,rfl⟩ | ⟨_,same,-⟩) <;> cases same
      rfl
  | ok r' =>
    dsimp only
    by_cases nameless : Record.addressing α = .keyed ∧ (Record.name r').getD "" = ""
    · rw [if_pos nameless]
      constructor
      · intro same
        cases same
        exact .inr ⟨r',rfl,nameless,rfl⟩
      · rintro (⟨_,same,-⟩ | ⟨_,-,-,rfl⟩)
        · cases same
        · rfl
    · rw [if_neg nameless]
      refine ⟨nofun,?_⟩
      rintro (⟨_,same,-⟩ | ⟨_,same,also,-⟩) <;> cases same
      exact absurd also nameless

end Rows

namespace Table

/-- The records of a table. -/
abbrev RecordType : Table → Type
  | .system => SystemSettings
  | .interface => InterfaceSpec
  | .storage => StorageSpec
  | .virtualMachine => VmSpec
  | .telemetry => TelemetryRecord

instance : (t : Table) → Record t.RecordType
  | .system => inferInstanceAs (Record SystemSettings)
  | .interface => inferInstanceAs (Record InterfaceSpec)
  | .storage => inferInstanceAs (Record StorageSpec)
  | .virtualMachine => inferInstanceAs (Record VmSpec)
  | .telemetry => inferInstanceAs (Record TelemetryRecord)

open Kind in
/-- The columns of a table. -/
def slots : (t : Table) → List (Slot t.RecordType)
  | .system => [⟨"hostname",.optional text,SystemSettings.hostname⟩,
      ⟨"logging_level",.optional (word LogLevel),SystemSettings.loggingLevel⟩,
      ⟨"timezone",.optional text,SystemSettings.timezone⟩]
  | .interface => [⟨"ip",.optional text,InterfaceSpec.ip⟩,⟨"mtu",.optional word32,InterfaceSpec.mtu⟩,
      ⟨"name",.name,InterfaceSpec.name⟩,⟨"state",.optional (word LinkState),InterfaceSpec.state⟩,
      ⟨"vlan",.optional word16,InterfaceSpec.vlan⟩]
  | .storage => [⟨"lun",.optional word32,StorageSpec.lun⟩,⟨"mount_point",.optional text,StorageSpec.mountPoint⟩,
      ⟨"portal_ip",.optional text,StorageSpec.portalIp⟩,⟨"target_iqn",.optional text,StorageSpec.targetIqn⟩]
  | .virtualMachine => [⟨"cpu",.optional word32,VmSpec.cpu⟩,⟨"disk_path",.optional text,VmSpec.diskPath⟩,
      ⟨"name",.name,VmSpec.name⟩,⟨"pci_passthrough",.texts,VmSpec.pciPassthrough⟩,
      ⟨"ram",.optional word64,VmSpec.ram⟩,⟨"state",.optional (word PowerState),VmSpec.state⟩]
  | .telemetry => [⟨"cpu_load",.optional real,TelemetryRecord.cpuLoad⟩,
      ⟨"ram_free",.optional int64,TelemetryRecord.ramFree⟩,⟨"temp",.optional real,TelemetryRecord.temp⟩]

open Cell Kind in
theorem readout (t : Table) (fields : Fields) :
    Readout fields (fun _ => True) t.slots (Record.read fields : Except ColumnFault t.RecordType) := by
  cases t with
  | system =>
    refine .cons (reads_optional reads_text) fun hostname => .cons (reads_optional reads_word) fun level =>
      .cons (reads_optional reads_text) fun timezone => .nil fun r => ⟨?_,?_⟩
    · rintro ⟨⟨⟨-,rfl⟩,rfl⟩,rfl⟩
      rfl
    · rintro rfl
      simp
  | interface =>
    refine .cons (reads_optional reads_text) fun ip => .cons (reads_optional reads_word32) fun mtu =>
      .cons reads_name fun name => .cons (reads_optional reads_word) fun state =>
      .cons (reads_optional reads_word16) fun vlan => .nil fun r => ⟨?_,?_⟩
    · rintro ⟨⟨⟨⟨⟨-,rfl⟩,rfl⟩,rfl⟩,rfl⟩,rfl⟩
      rfl
    · rintro rfl
      simp
  | storage =>
    refine .cons (reads_optional reads_word32) fun lun => .cons (reads_optional reads_text) fun mountPoint =>
      .cons (reads_optional reads_text) fun portalIp => .cons (reads_optional reads_text) fun targetIqn =>
      .nil fun r => ⟨?_,?_⟩
    · rintro ⟨⟨⟨⟨-,rfl⟩,rfl⟩,rfl⟩,rfl⟩
      rfl
    · rintro rfl
      simp
  | virtualMachine =>
    refine .cons (reads_optional reads_word32) fun cpu => .cons (reads_optional reads_text) fun diskPath =>
      .cons reads_name fun name => .cons Cell.reads_texts fun pciPassthrough =>
      .cons (reads_optional reads_word64) fun ram => .cons (reads_optional reads_word) fun state =>
      .nil fun r => ⟨?_,?_⟩
    · rintro ⟨⟨⟨⟨⟨⟨-,rfl⟩,rfl⟩,rfl⟩,rfl⟩,rfl⟩,rfl⟩
      rfl
    · rintro rfl
      simp
  | telemetry =>
    refine .cons (reads_optional reads_real) fun cpuLoad => .cons (reads_optional reads_int64) fun ramFree =>
      .cons (reads_optional reads_real) fun temp => .nil fun r => ⟨?_,?_⟩
    · rintro ⟨⟨⟨-,rfl⟩,rfl⟩,rfl⟩
      rfl
    · rintro rfl
      simp

theorem slots_sorted (t : Table) : (t.slots.map (·.column)).Pairwise (· < ·) := by
  cases t <;> decide

theorem table_recordType (t : Table) : Record.table t.RecordType = t := by cases t <;> rfl

theorem read_congr (t : Table) {fields other : Fields}
    (same : ∀ slot ∈ t.slots, other.get? slot.column = fields.get? slot.column) :
    (Record.read other : Except ColumnFault t.RecordType) = Record.read fields := by
  cases found : (Record.read fields : Except ColumnFault t.RecordType) with
  | error fault =>
    have first := ((t.readout fields).error_iff fault).mp found
    exact ((t.readout other).error_iff fault).mpr (first.of_same same)
  | ok r =>
    obtain ⟨-,keeps⟩ := ((t.readout fields).ok_iff r).mp found
    refine ((t.readout other).ok_iff r).mpr ⟨trivial,fun slot member => ?_⟩
    rw [Slot.Keeps,same slot member]
    exact keeps slot member

/-- A row has no name where the table needs one. -/
def Nameless (t : Table) (fields : Fields) : Prop := Record.addressing t.RecordType = .keyed ∧ ¬Named fields

section Decoding

variable {t : Table} {fields : Fields} {r : t.RecordType}

theorem nameless_iff (keeps : ∀ slot ∈ t.slots, slot.Keeps fields r) : t.Nameless fields ↔
    Record.addressing t.RecordType = .keyed ∧ (Record.name r).getD "" = "" := by
  refine and_congr_right fun keyed => ?_
  cases t with
  | system | storage | telemetry => cases keyed
  | interface =>
    have name := keeps ⟨"name",.name,InterfaceSpec.name⟩ (by simp [slots])
    exact name.unnamed_iff
  | virtualMachine =>
    have name := keeps ⟨"name",.name,VmSpec.name⟩ (by simp [slots])
    exact name.unnamed_iff

/-- The columns do not depend on each other: if each can be taken, there is a record that keeps them all. -/
theorem takes_all_iff :
    (∀ slot ∈ t.slots, slot.Takes fields) ↔ ∃ r : t.RecordType, ∀ slot ∈ t.slots, slot.Keeps fields r := by
  constructor
  · intro takes
    cases found : (Record.read fields : Except ColumnFault t.RecordType) with
    | error fault => exact absurd takes (((t.readout fields).error_iff fault).mp found).not_takes
    | ok r => exact ⟨r,(((t.readout fields).ok_iff r).mp found).2⟩
  · rintro ⟨r,keeps⟩ slot member
    exact Cell.takes_iff.mpr ⟨_,keeps slot member⟩

theorem ok_iff : decodeRow fields = .ok r ↔ (∀ slot ∈ t.slots, slot.Keeps fields r) ∧ ¬t.Nameless fields := by
  rw [decodeRow_eq_ok_iff,(t.readout fields).ok_iff,true_and]
  exact and_congr_right fun keeps => not_congr (nameless_iff keeps).symm

theorem name_of_decodeRow (keyed : Record.addressing t.RecordType = .keyed) (read : decodeRow fields = .ok r) :
    ∃ name, fields.get? "name" = some (.text name) ∧ name ≠ "" ∧ Record.name r = some name := by
  obtain ⟨keeps,nameless⟩ := ok_iff.mp read
  have named : Named fields := by
    by_contra unnamed
    exact nameless ⟨keyed,unnamed⟩
  obtain ⟨name,found,filled⟩ := named
  have value : Column.Cell.name.Keeps (fields.get? "name") name := by
    rw [found]
    exact .value rfl
  refine ⟨name,found,filled,?_⟩
  cases t with
  | system | storage | telemetry => cases keyed
  | interface =>
    have kept := keeps ⟨"name",.name,InterfaceSpec.name⟩ (by simp [slots])
    exact congrArg some (kept.unique value)
  | virtualMachine =>
    have kept := keeps ⟨"name",.name,VmSpec.name⟩ (by simp [slots])
    exact congrArg some (kept.unique value)

theorem error_iff {e : SchemaError} : decodeRow (α := t.RecordType) fields = .error e ↔
    (∃ fault, FirstFault fields t.slots fault ∧ e = .invalidRow t fault) ∨
    (∀ slot ∈ t.slots, slot.Takes fields) ∧ t.Nameless fields ∧ e = .emptyName t := by
  rw [decodeRow_eq_error_iff,table_recordType,takes_all_iff]
  refine or_congr (exists_congr fun fault => and_congr_left fun _ => (t.readout fields).error_iff fault) ?_
  rw [← exists_and_right]
  refine exists_congr fun r => ?_
  rw [(t.readout fields).ok_iff,true_and]
  exact and_congr_right fun keeps => and_congr_left fun _ => (nameless_iff keeps).symm

end Decoding

/-- A row is accepted exactly if every column of the table can be taken and a name that is needed is there. The record
keeps what is found in the columns, and nothing else. Otherwise the first column that cannot be taken is at fault, and
the name only if there is none. The columns stand in key order, and no other column matters. -/
theorem rows_are_taken_by_their_columns (t : Table) (fields : Fields) :
    (t.slots.map (·.column)).Pairwise (· < ·) ∧
    (∀ r : t.RecordType, decodeRow fields = .ok r ↔
      (∀ slot ∈ t.slots, slot.Keeps fields r) ∧ ¬t.Nameless fields) ∧
    ((∃ r : t.RecordType, decodeRow fields = .ok r) ↔
      (∀ slot ∈ t.slots, slot.Takes fields) ∧ ¬t.Nameless fields) ∧
    (∀ e, decodeRow (α := t.RecordType) fields = .error e ↔
      (∃ fault, FirstFault fields t.slots fault ∧ e = .invalidRow t fault) ∨
      (∀ slot ∈ t.slots, slot.Takes fields) ∧ t.Nameless fields ∧ e = .emptyName t) ∧
    ∀ other : Fields, (∀ slot ∈ t.slots, other.get? slot.column = fields.get? slot.column) →
      decodeRow (α := t.RecordType) other = decodeRow fields := by
  refine ⟨t.slots_sorted,fun r => ok_iff,?_,fun e => error_iff,fun other same => ?_⟩
  · rw [takes_all_iff,← exists_and_right]
    exact exists_congr fun r => ok_iff
  · rw [decodeRow,decodeRow,t.read_congr same]

example : decodeRow (α := VmSpec) (.ofList [("name",.text "web"),("state",.text " Run"),("cpu",.int 4294967295),
    ("ram",.null),("pci_passthrough",.text "0000:01:00.0"),("colour",.bool true)]) =
    .ok {name := "web",cpu := some 4294967295,pciPassthrough := ["0000:01:00.0"],state := some .run} := by
  decide +kernel

example : decodeRow (α := InterfaceSpec) (.ofList [("vlan",.text "7"),("name",.null),("mtu",.int (-1))]) =
    .error (.invalidRow .interface (.outOfRange (-1) .word32)) := by
  decide +kernel

end Table

end Hostkeeper
