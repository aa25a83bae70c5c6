import Hostkeeper.Proofs.KeyMap
import Hostkeeper.Schema.Record

/-! Records written as rows and read back. What is found in a column may differ from what was written:
an unset column or an empty list is absent or null, and a list of one is its element. A row that shows
every column of a record in one of these ways reads as that record. -/
namespace Hostkeeper

/-- A value that is neither null nor made of other values. -/
def Json.IsAtom : Json → Prop
  | .bool _ | .int _ | .real _ | .text _ => True
  | .null | .list _ | .object _ => False

/-- The values that records write: null, atoms and lists of texts. -/
inductive Json.Flat : Json → Prop
  | null : Flat .null
  | atom (value) (atomic : value.IsAtom) : Flat value
  | texts (items : List String) : Flat (.list (items.map .text))

theorem Json.Flat.text_of_single {item : Json} (flat : (Json.list [item]).Flat) : ∃ s, item = .text s := by
  generalize whole : Json.list [item] = value at flat
  cases flat with
  | null => cases whole
  | atom _ atomic =>
    subst whole
    cases atomic
  | texts items =>
    obtain ⟨s,_,same⟩ : ∃ s, items = [s] ∧ Json.text s = item := by
      simpa [List.map_eq_singleton_iff,eq_comm] using whole
    exact ⟨s,same.symm⟩

/-- The words of a column are read as they are written. -/
class LawfulWord (α : Type) [Word α] : Prop where
  read?_text : ∀ w : α, Word.read? (Word.text w) = some w

instance : LawfulWord LogLevel where
  read?_text w := by cases w <;> decide +kernel

instance : LawfulWord LinkState where
  read?_text w := by cases w <;> decide +kernel

instance : LawfulWord PowerState where
  read?_text w := by cases w <;> decide +kernel

namespace Column

section Taking

theorem takeWord_text {α : Type} [Word α] [LawfulWord α] (w : α) : takeWord (.text (Word.text w)) = .ok w := by
  simp only [takeWord,takeText,bind,Except.bind,LawfulWord.read?_text]

theorem takeInt_of_mem (wanted : ColumnType) {least most n : Int} (above : least ≤ n) (below : n ≤ most) :
    takeInt wanted least most (.int n) = .ok n := by
  rw [takeInt,if_pos ⟨above,below⟩]

theorem takeWord16_toNat (n : UInt16) : takeWord16 (.int n.toNat) = .ok n := by
  have bound : n.toNat < UInt16.size := n.toNat_lt
  rw [takeWord16,takeInt_of_mem .word16 (by omega) (by omega)]
  change Except.ok (UInt16.ofNat ((n.toNat : Int).toNat)) = _
  rw [Int.toNat_natCast,UInt16.ofNat_toNat]

theorem takeWord32_toNat (n : UInt32) : takeWord32 (.int n.toNat) = .ok n := by
  have bound : n.toNat < UInt32.size := n.toNat_lt
  rw [takeWord32,takeInt_of_mem .word32 (by omega) (by omega)]
  change Except.ok (UInt32.ofNat ((n.toNat : Int).toNat)) = _
  rw [Int.toNat_natCast,UInt32.ofNat_toNat]

theorem takeWord64_toNat (n : UInt64) : takeWord64 (.int n.toNat) = .ok n := by
  have bound : n.toNat < UInt64.size := n.toNat_lt
  rw [takeWord64,takeInt_of_mem .word64 (by omega) (by omega)]
  change Except.ok (UInt64.ofNat ((n.toNat : Int).toNat)) = _
  rw [Int.toNat_natCast,UInt64.ofNat_toNat]

theorem takeInt64_toInt (n : Int64) : takeInt64 (.int n.toInt) = .ok n := by
  rw [takeInt64,takeInt_of_mem .int64 n.minValue_le_toInt n.toInt_le]
  change Except.ok (Int64.ofInt n.toInt) = _
  rw [Int64.ofInt_toInt]

theorem mapM_text?_eq_some_iff {values : List Json} {items : List String} :
    values.mapM Json.text? = some items ↔ values = items.map .text := by
  induction values generalizing items with
  | nil => simp [eq_comm]
  | cons value values ih =>
    have head (s : String) : value.text? = some s ↔ value = .text s := by cases value <;> simp [Json.text?]
    cases items <;> simp [List.mapM_cons,Option.bind_eq_some_iff,head,ih]

theorem takeTexts_texts (items : List String) : takeTexts (.list (items.map .text)) = .ok items := by
  rw [takeTexts,mapM_text?_eq_some_iff.mpr rfl]

end Taking

/-- What may be found in a column in place of the value that was written there. -/
inductive Shown : Json → Option Json → Prop
  | absent : Shown .null none
  | missing : Shown (.list []) none
  | empty : Shown (.list []) (some .null)
  | bare (item) : Shown (.list [item]) (some item)
  | same (value) : Shown value (some value)

attribute [simp] Shown.absent Shown.missing Shown.same

variable {fields : Fields} {column : String}

theorem set?_of_shown_null (shown : Shown .null (fields.get? column)) : set? fields column = none := by
  rw [set?]
  generalize fields.get? column = found at shown
  cases shown <;> rfl

theorem set?_of_shown_atom {value : Json} (atomic : value.IsAtom) (shown : Shown value (fields.get? column)) :
    set? fields column = some value := by
  rw [set?]
  generalize fields.get? column = found at shown
  cases shown with
  | absent | missing | empty | bare => cases atomic
  | same => cases value <;> first | rfl | cases atomic

/-- An optional column reads as the value that was written, if its type takes that value back. -/
theorem optional_of_shown {α : Type} {take : Json → Except ColumnFault α} {write : α → Json} {value : Option α}
    (shown : Shown ((value.map write).getD .null) (fields.get? column))
    (atomic : ∀ x ∈ value, (write x).IsAtom) (taken : ∀ x ∈ value, take (write x) = .ok x) :
    optional take fields column = .ok value := by
  unfold optional
  cases value with
  | none => rw [set?_of_shown_null shown]
  | some x =>
    rw [set?_of_shown_atom (atomic x rfl) shown]
    change (take (write x)).map some = _
    rw [taken x rfl]
    rfl

theorem optional_text {value : Option String}
    (shown : Shown ((value.map Json.text).getD .null) (fields.get? column)) :
    optional takeText fields column = .ok value :=
  optional_of_shown shown (fun _ _ => trivial) fun _ _ => rfl

theorem optional_word {α : Type} [Word α] [LawfulWord α] {value : Option α}
    (shown : Shown ((value.map fun w => Json.text (Word.text w)).getD .null) (fields.get? column)) :
    optional takeWord fields column = .ok value :=
  optional_of_shown shown (fun _ _ => trivial) fun w _ => takeWord_text w

theorem optional_int {α : Type} {take : Json → Except ColumnFault α} {number : α → Int} {value : Option α}
    (taken : ∀ x, take (.int (number x)) = .ok x)
    (shown : Shown (((value.map number).map Json.int).getD .null) (fields.get? column)) :
    optional take fields column = .ok value := by
  rw [Option.map_map] at shown
  exact optional_of_shown shown (fun _ _ => trivial) fun x _ => taken x

theorem optional_real {value : Option Binary64} (finite : ∀ x ∈ value, x.isFinite)
    (shown : Shown ((value.map Json.ofBinary64).getD .null) (fields.get? column)) :
    optional takeReal fields column = .ok value := by
  have written (x) (member : x ∈ value) : Json.ofBinary64 x = .real x := if_pos (finite x member)
  refine optional_of_shown shown (fun x member => ?_) fun x member => ?_
  · rw [written x member]
    trivial
  · rw [written x member]
    rfl

theorem name_of_shown {s : String} (shown : Shown (.text s) (fields.get? "name")) : name fields = .ok s := by
  unfold name
  generalize fields.get? "name" = found at shown
  cases shown
  rfl

theorem texts_of_shown {items : List String} (shown : Shown (.list (items.map .text)) (fields.get? column)) :
    texts fields column = .ok items := by
  unfold texts
  generalize fields.get? column = found at shown
  generalize written : Json.list (items.map .text) = value at shown
  cases shown with
  | absent => cases written
  | missing | empty =>
    obtain rfl : items = [] := by simpa using written
    rfl
  | bare item =>
    obtain ⟨s,rfl,rfl⟩ : ∃ s, items = [s] ∧ Json.text s = item := by simpa [List.map_eq_singleton_iff] using written
    rfl
  | same =>
    subst written
    exact takeTexts_texts items

end Column

/-- A row that shows every column of a record. -/
def Shows {α : Type} [Record α] (fields : Fields) (r : α) : Prop :=
  ∀ e ∈ Record.columns r, Column.Shown e.2 (fields.get? e.1)

/-- Records that reading gives back: their columns have names of their own and flat values, and a row
that shows all of them reads as the record, unless it has a number that cannot be written. -/
class LawfulRecord (α : Type) [Record α] where
  Writable : α → Prop
  columns_nodup : ∀ r : α, ((Record.columns r).map (·.1)).Nodup
  flat : ∀ r : α, ∀ e ∈ Record.columns r, e.2.Flat
  read_of_shows : ∀ (r : α) (fields : Fields), Writable r → Shows fields r → Record.read fields = .ok r

section Records

open Column Json

theorem flat_text (value : Option String) : ((value.map Json.text).getD .null).Flat := by
  cases value with
  | none => exact .null
  | some s => exact .atom _ trivial

theorem flat_word {α : Type} [Word α] (value : Option α) :
    ((value.map fun w => Json.text (Word.text w)).getD .null).Flat := by
  cases value with
  | none => exact .null
  | some w => exact .atom _ trivial

theorem flat_int (value : Option Int) : ((value.map Json.int).getD .null).Flat := by
  cases value with
  | none => exact .null
  | some n => exact .atom _ trivial

theorem flat_real (value : Option Binary64) : ((value.map Json.ofBinary64).getD .null).Flat := by
  cases value with
  | none => exact .null
  | some x =>
    change (if x.isFinite then Json.real x else .null).Flat
    split
    · exact .atom _ trivial
    · exact .null

theorem columns_system (settings : SystemSettings) : Record.columns settings =
    [("hostname",(settings.hostname.map .text).getD .null),("timezone",(settings.timezone.map .text).getD .null),
      ("logging_level",(settings.loggingLevel.map fun w => .text (Word.text w)).getD .null)] := rfl

theorem columns_interface (spec : InterfaceSpec) : Record.columns spec =
    [("name",.text spec.name),("ip",(spec.ip.map .text).getD .null),
      ("state",(spec.state.map fun w => .text (Word.text w)).getD .null),
      ("mtu",((spec.mtu.map fun n => (n.toNat : Int)).map .int).getD .null),
      ("vlan",((spec.vlan.map fun n => (n.toNat : Int)).map .int).getD .null)] := rfl

theorem columns_vm (spec : VmSpec) : Record.columns spec =
    [("name",.text spec.name),("cpu",((spec.cpu.map fun n => (n.toNat : Int)).map .int).getD .null),
      ("ram",((spec.ram.map fun n => (n.toNat : Int)).map .int).getD .null),
      ("disk_path",(spec.diskPath.map .text).getD .null),
      ("pci_passthrough",.list (spec.pciPassthrough.map .text)),
      ("state",(spec.state.map fun w => .text (Word.text w)).getD .null)] := rfl

instance : LawfulRecord SystemSettings where
  Writable _ := True
  columns_nodup _ := by
    change ["hostname","timezone","logging_level"].Nodup
    decide
  flat r := by
    simp only [Record.columns,List.forall_mem_cons]
    exact ⟨flat_text _,flat_text _,flat_word _,by simp⟩
  read_of_shows r fields _ shown := by
    simp only [Shows,Record.columns,List.forall_mem_cons] at shown
    obtain ⟨hostname,timezone,level,-⟩ := shown
    simp only [Record.read,optional_text hostname,optional_word level,optional_text timezone,bind,Except.bind]
    rfl

instance : LawfulRecord InterfaceSpec where
  Writable _ := True
  columns_nodup _ := by
    change ["name","ip","state","mtu","vlan"].Nodup
    decide
  flat r := by
    simp only [Record.columns,List.forall_mem_cons]
    exact ⟨.atom _ trivial,flat_text _,flat_word _,flat_int _,flat_int _,by simp⟩
  read_of_shows r fields _ shown := by
    simp only [Shows,Record.columns,List.forall_mem_cons] at shown
    obtain ⟨name,ip,state,mtu,vlan,-⟩ := shown
    simp only [Record.read,name_of_shown name,optional_text ip,optional_word state,
      optional_int takeWord32_toNat mtu,optional_int takeWord16_toNat vlan,bind,Except.bind]
    rfl

instance : LawfulRecord StorageSpec where
  Writable _ := True
  columns_nodup _ := by
    change ["target_iqn","portal_ip","lun","mount_point"].Nodup
    decide
  flat r := by
    simp only [Record.columns,List.forall_mem_cons]
    exact ⟨flat_text _,flat_text _,flat_int _,flat_text _,by simp⟩
  read_of_shows r fields _ shown := by
    simp only [Shows,Record.columns,List.forall_mem_cons] at shown
    obtain ⟨iqn,portal,lun,mount,-⟩ := shown
    simp only [Record.read,optional_text iqn,optional_text portal,optional_int takeWord32_toNat lun,
      optional_text mount,bind,Except.bind]
    rfl

instance : LawfulRecord VmSpec where
  Writable _ := True
  columns_nodup _ := by
    change ["name","cpu","ram","disk_path","pci_passthrough","state"].Nodup
    decide
  flat r := by
    simp only [Record.columns,List.forall_mem_cons]
    exact ⟨.atom _ trivial,flat_int _,flat_int _,flat_text _,.texts _,flat_word _,by simp⟩
  read_of_shows r fields _ shown := by
    simp only [Shows,Record.columns,List.forall_mem_cons] at shown
    obtain ⟨name,cpu,ram,disk,devices,state,-⟩ := shown
    simp only [Record.read,name_of_shown name,optional_int takeWord32_toNat cpu,
      optional_int takeWord64_toNat ram,optional_text disk,texts_of_shown devices,optional_word state,
      bind,Except.bind]
    rfl

/-- The floats of a record are numbers. -/
def TelemetryRecord.Finite (r : TelemetryRecord) : Prop :=
  (∀ x ∈ r.cpuLoad, x.isFinite) ∧ ∀ x ∈ r.temp, x.isFinite

instance : LawfulRecord TelemetryRecord where
  Writable := TelemetryRecord.Finite
  columns_nodup _ := by
    change ["cpu_load","temp","ram_free"].Nodup
    decide
  flat r := by
    simp only [Record.columns,List.forall_mem_cons]
    exact ⟨flat_real _,flat_real _,flat_int _,by simp⟩
  read_of_shows r fields finite shown := by
    simp only [Shows,Record.columns,List.forall_mem_cons] at shown
    obtain ⟨load,temp,free,-⟩ := shown
    simp only [Record.read,optional_real finite.1 load,optional_real finite.2 temp,
      optional_int takeInt64_toInt free,bind,Except.bind]
    rfl

end Records

section Rows

variable {α : Type} [Record α] [LawfulRecord α] {r : α}

theorem get?_encodeRecord {e : String × Json} (member : e ∈ Record.columns r) :
    (encodeRecord r).get? e.1 = some e.2 :=
  (KeyMap.get?_ofList_iff _ (LawfulRecord.columns_nodup r) e.1 e.2).mpr member

/-- A name is needed in a keyed table only. -/
theorem decodeRow_of_shows {fields : Fields} (writable : LawfulRecord.Writable r)
    (named : Record.addressing α = .keyed → (Record.name r).getD "" ≠ "") (shown : Shows fields r) :
    decodeRow fields = .ok r := by
  have accepted : ¬(Record.addressing α = .keyed ∧ (Record.name r).getD "" = "") :=
    fun nameless => named nameless.1 nameless.2
  unfold decodeRow
  rw [LawfulRecord.read_of_shows r fields writable shown]
  exact if_neg accepted

end Rows

end Hostkeeper
