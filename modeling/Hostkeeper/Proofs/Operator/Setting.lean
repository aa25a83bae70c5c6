import Hostkeeper.Operator.Setting
import Hostkeeper.Proofs.Store.Returned
import Hostkeeper.Proofs.Text.Numeral

/-! What an operator sets is what the agents read. A text that is accepted for a field stands for one
value of it, and a row with that value in the one column is read as the record that has it, whichever
way the store gives the row back. -/
namespace Hostkeeper

/-- The records of a resource. -/
abbrev Resource.Spec : Resource → Type
  | .interface => InterfaceSpec
  | .system => SystemSettings
  | .vm => VmSpec

instance (r : Resource) : Record r.Spec :=
  match r with
  | .interface => inferInstanceAs (Record InterfaceSpec)
  | .system => inferInstanceAs (Record SystemSettings)
  | .vm => inferInstanceAs (Record VmSpec)

instance (r : Resource) : LawfulRecord r.Spec :=
  match r with
  | .interface => inferInstanceAs (LawfulRecord InterfaceSpec)
  | .system => inferInstanceAs (LawfulRecord SystemSettings)
  | .vm => inferInstanceAs (LawfulRecord VmSpec)

theorem Resource.table_spec (r : Resource) : Record.table r.Spec = r.table := by
  cases r <;> rfl

namespace Setting

/-- The record that a text asks for in a field, nothing else being set. -/
inductive Asks (name raw : String) : (r : Resource) → String → r.Spec → Prop
  | address : Asks name raw .interface "ip" {name, ip := some raw}
  | link (w : LinkState) (word : Word.text w = Text.lower (Text.trim raw)) :
      Asks name raw .interface "state" {name, state := some w}
  | mtu (n : UInt32) (number : Text.Denotes (Text.trim raw) n.toNat) :
      Asks name raw .interface "mtu" {name, mtu := some n}
  | vlan (n : UInt16) (number : Text.Denotes (Text.trim raw) n.toNat) :
      Asks name raw .interface "vlan" {name, vlan := some n}
  | hostname : Asks name raw .system "hostname" {hostname := some raw}
  | timezone : Asks name raw .system "timezone" {timezone := some raw}
  | level (w : LogLevel) (word : Word.text w = Text.lower (Text.trim raw)) :
      Asks name raw .system "logging_level" {loggingLevel := some w}
  | cpu (n : UInt32) (number : Text.Denotes (Text.trim raw) n.toNat) :
      Asks name raw .vm "cpu" {name, cpu := some n}
  | ram (n : UInt64) (number : Text.Denotes (Text.trim raw) n.toNat) :
      Asks name raw .vm "ram" {name, ram := some n}
  | disk : Asks name raw .vm "disk_path" {name, diskPath := some raw}
  | power (w : PowerState) (word : Word.text w = Text.lower (Text.trim raw)) :
      Asks name raw .vm "state" {name, state := some w}
  | devices : Asks name raw .vm "pci_passthrough"
      {name, pciPassthrough := (Text.splitOn ',' raw).filterMap Text.trimmed?}

/-- The value that a text stands for in a field that accepts it. -/
inductive Accepts (raw : String) : Resource → String → Json → Prop
  | address : Accepts raw .interface "ip" (.text raw)
  | link (w : LinkState) (word : Word.text w = Text.lower (Text.trim raw)) :
      Accepts raw .interface "state" (.text (Word.text w))
  | mtu (n : UInt32) (number : Text.Denotes (Text.trim raw) n.toNat) : Accepts raw .interface "mtu" (.int n.toNat)
  | vlan (n : UInt16) (number : Text.Denotes (Text.trim raw) n.toNat) (bound : n.toNat ≤ 4094) :
      Accepts raw .interface "vlan" (.int n.toNat)
  | hostname : Accepts raw .system "hostname" (.text raw)
  | timezone : Accepts raw .system "timezone" (.text raw)
  | level (w : LogLevel) (word : Word.text w = Text.lower (Text.trim raw)) :
      Accepts raw .system "logging_level" (.text (Word.text w))
  | cpu (n : UInt32) (number : Text.Denotes (Text.trim raw) n.toNat) : Accepts raw .vm "cpu" (.int n.toNat)
  | ram (n : UInt64) (number : Text.Denotes (Text.trim raw) n.toNat) : Accepts raw .vm "ram" (.int n.toNat)
  | disk : Accepts raw .vm "disk_path" (.text raw)
  | power (w : PowerState) (word : Word.text w = Text.lower (Text.trim raw)) :
      Accepts raw .vm "state" (.text (Word.text w))
  | devices : Accepts raw .vm "pci_passthrough"
      (.list (((Text.splitOn ',' raw).filterMap Text.trimmed?).map .text))

/-- The columns of a row that is made for a setting. -/
def newRow (r : Resource) (name key : String) (value : Json) : Fields :=
  .ofList ((if r = .system then [] else [("name",.text name)]) ++ [(key,value)])

theorem upsert_newRow {r : Resource} {name : String} {snapshot : TableSnapshot}
    (absent : target? r name snapshot = none) (key : String) (value : Json) :
    upsert r name snapshot key value = ⟨[.insert r.table.name (newRow r name key value)]⟩ := by
  unfold upsert newRow
  rw [absent]
  by_cases system : r = .system <;> simp [system,Write.upsert]

section Accepted

variable {raw : String}

theorem map_ok {ε α β : Type} {f : α → β} {result : Except ε α} {y : β} (ok : result.map f = .ok y) :
    ∃ x, result = .ok x ∧ f x = y := by
  cases result with
  | error e => cases ok
  | ok x => exact ⟨x,rfl,Except.ok.inj ok⟩

theorem mapError_ok {ε ε' α : Type} {f : ε → ε'} {result : Except ε α} {x : α} (ok : result.mapError f = .ok x) :
    result = .ok x := by
  cases result with
  | error e => cases ok
  | ok y => exact congrArg Except.ok (Except.ok.inj ok)

theorem takeNat_ok {limit : Nat} {value : Json} (taken : (takeNat limit raw).map natJson = .ok value) :
    ∃ n : Nat, value = .int n ∧ Text.Denotes (Text.trim raw) n ∧ n ≤ limit := by
  obtain ⟨n,number,rfl⟩ := map_ok taken
  exact ⟨n,rfl,(Text.readNat_ok_iff limit n (Text.trim raw)).mp (mapError_ok number)⟩

theorem takeVlan_ok {value : Json} (taken : (takeVlan raw).map natJson = .ok value) :
    ∃ n : Nat, value = .int n ∧ Text.Denotes (Text.trim raw) n ∧ n ≤ 4094 := by
  obtain ⟨n,number,rfl⟩ := map_ok taken
  simp only [takeVlan,bind,Except.bind] at number
  split at number
  next => cases number
  next vlan read =>
    split at number
    next => cases number
    next within =>
      cases number
      obtain ⟨_,same,denotes,-⟩ := takeNat_ok (congrArg (Except.map natJson) read)
      obtain rfl := Int.ofNat.inj (Json.int.inj same)
      exact ⟨n,rfl,denotes,Nat.le_of_not_gt within⟩

theorem takeWord_ok {α : Type} [Word α] {value : Json} (taken : takeWord α raw = .ok value) :
    ∃ w : α, value = .text (Word.text w) ∧ Word.text w = Text.lower (Text.trim raw) := by
  unfold takeWord Word.read at taken
  cases read : Word.read? (α := α) raw with
  | none => rw [read] at taken; cases taken
  | some w =>
    rw [read] at taken
    cases taken
    exact ⟨w,rfl,by simpa using List.find?_some read⟩

theorem exists_word16 {n : Nat} (bound : n ≤ UInt16.size - 1) : ∃ w : UInt16, w.toNat = n :=
  ⟨.ofNat n,UInt16.toNat_ofNat_of_lt' (Nat.lt_of_le_pred (by decide) bound)⟩

theorem exists_word32 {n : Nat} (bound : n ≤ UInt32.size - 1) : ∃ w : UInt32, w.toNat = n :=
  ⟨.ofNat n,UInt32.toNat_ofNat_of_lt' (Nat.lt_of_le_pred (by decide) bound)⟩

theorem exists_word64 {n : Nat} (bound : n ≤ UInt64.size - 1) : ∃ w : UInt64, w.toNat = n :=
  ⟨.ofNat n,UInt64.toNat_ofNat_of_lt' (Nat.lt_of_le_pred (by decide) bound)⟩

end Accepted

theorem get?_newRow (r : Resource) (name key : String) (value : Json) (column : String) :
    (newRow r name key value).get? column =
      if column = key then some value
      else if r ≠ .system ∧ column = "name" then some (.text name) else none := by
  unfold newRow
  rw [KeyMap.get?_ofList]
  by_cases system : r = .system <;> by_cases same : column = key <;> simp [lookupEntry,system,same]

theorem accepts_of_coerce {r : Resource} {key raw : String} {value : Json} (accepted : coerce r key raw = .ok value) :
    Accepts raw r key value := by
  unfold coerce at accepted
  split at accepted
  next => cases accepted
  next read found =>
    have taken : read raw = .ok value := mapError_ok accepted
    unfold reader? at found
    -- The fields in the order in which they are listed for each resource.
    split at found <;> try obtain rfl := Option.some.inj found
    next =>
      obtain rfl := Except.ok.inj taken
      exact .address
    next =>
      obtain ⟨w,rfl,word⟩ := takeWord_ok taken
      exact .link w word
    next =>
      obtain ⟨n,rfl,number,bound⟩ := takeNat_ok taken
      obtain ⟨w,rfl⟩ := exists_word32 bound
      exact .mtu w number
    next =>
      obtain ⟨n,rfl,number,bound⟩ := takeVlan_ok taken
      obtain ⟨w,rfl⟩ := exists_word16 (Nat.le_trans bound (by decide))
      exact .vlan w number bound
    next =>
      obtain rfl := Except.ok.inj taken
      exact .hostname
    next =>
      obtain rfl := Except.ok.inj taken
      exact .timezone
    next =>
      obtain ⟨w,rfl,word⟩ := takeWord_ok taken
      exact .level w word
    next =>
      obtain ⟨n,rfl,number,bound⟩ := takeNat_ok taken
      obtain ⟨w,rfl⟩ := exists_word32 bound
      exact .cpu w number
    next =>
      obtain ⟨n,rfl,number,bound⟩ := takeNat_ok taken
      obtain ⟨w,rfl⟩ := exists_word64 bound
      exact .ram w number
    next =>
      obtain rfl := Except.ok.inj taken
      exact .disk
    next =>
      obtain ⟨w,rfl,word⟩ := takeWord_ok taken
      exact .power w word
    next =>
      obtain rfl := Except.ok.inj taken
      exact .devices
    next => cases found

theorem asks_of_coerce {r : Resource} {key raw : String} {value : Json} (accepted : coerce r key raw = .ok value)
    (name : String) : ∃ spec : r.Spec, Asks name raw r key spec ∧ Shows (newRow r name key value) spec := by
  cases accepts_of_coerce accepted with
  | address => exact ⟨_,.address,by simp [Shows,columns_interface,get?_newRow]⟩
  | link w word => exact ⟨_,.link w word,by simp [Shows,columns_interface,get?_newRow]⟩
  | mtu n number => exact ⟨_,.mtu n number,by simp [Shows,columns_interface,get?_newRow]⟩
  | vlan n number => exact ⟨_,.vlan n number,by simp [Shows,columns_interface,get?_newRow]⟩
  | hostname => exact ⟨_,.hostname,by simp [Shows,columns_system,get?_newRow]⟩
  | timezone => exact ⟨_,.timezone,by simp [Shows,columns_system,get?_newRow]⟩
  | level w word => exact ⟨_,.level w word,by simp [Shows,columns_system,get?_newRow]⟩
  | cpu n number => exact ⟨_,.cpu n number,by simp [Shows,columns_vm,get?_newRow]⟩
  | ram n number => exact ⟨_,.ram n number,by simp [Shows,columns_vm,get?_newRow]⟩
  | disk => exact ⟨_,.disk,by simp [Shows,columns_vm,get?_newRow]⟩
  | power w word => exact ⟨_,.power w word,by simp [Shows,columns_vm,get?_newRow]⟩
  | devices => exact ⟨_,.devices,by simp [Shows,columns_vm,get?_newRow]⟩

/-- A text that is accepted for a field asks for one record, and the row made for it is read as this
record by those who read the resource's table. -/
theorem accepted_settings_are_read (r : Resource) (name key raw : String) (value : Json)
    (named : r ≠ .system → name ≠ "") (accepted : coerce r key raw = .ok value) :
    Record.table r.Spec = r.table ∧ ∃ spec : r.Spec, Asks name raw r key spec ∧
      ∀ sent ∈ [Wire.encodeInsert (newRow r name key value),Wire.encodeUpdate (newRow r name key value)],
      ∀ got, Wire.Returns sent got → decodeRow got = .ok spec := by
  obtain ⟨spec,asks,shows⟩ := asks_of_coerce accepted name
  refine ⟨r.table_spec,spec,asks,fun sent written got returns => ?_⟩
  have writable : LawfulRecord.Writable spec := by cases asks <;> trivial
  refine Wire.decodeRow_of_returns writable (fun keyed => ?_) shows (by simpa using written) returns
  cases asks with
  | address | link | mtu | vlan | cpu | ram | disk | power | devices => exact named (by decide)
  | hostname | timezone | level => cases keyed

/-- One device in a list with blanks and nothing more, and given back bare. -/
theorem single_device_is_read :
    let value : Json := .list [.text "0000:01:00.0"]
    let row : Fields := .ofList [("name",.text "vm1"),("pci_passthrough",.text "0000:01:00.0")]
    coerce .vm "pci_passthrough" " 0000:01:00.0 ,," = .ok value ∧
    Wire.Returns (Wire.encodeInsert (newRow .vm "vm1" "pci_passthrough" value)) row ∧
    decodeRow row = .ok ({name := "vm1", pciPassthrough := ["0000:01:00.0"]} : VmSpec) := by
  intro value row
  have accepted : coerce .vm "pci_passthrough" " 0000:01:00.0 ,," = .ok value := by decide +kernel
  have returns : Wire.Returns (Wire.encodeInsert (newRow .vm "vm1" "pci_passthrough" value)) row := by
    refine ⟨.ofList [("name",.text "vm1"),("pci_passthrough",.list [.text "set",.list [.text "0000:01:00.0"]])],row,
      by decide +kernel,fun column => ?_,by decide +kernel⟩
    simp only [row,KeyMap.get?_ofList,List.reverse_cons,List.reverse_nil,List.nil_append,List.cons_append,lookupEntry]
    by_cases devices : column = "pci_passthrough"
    · simpa [devices] using .bare _
    by_cases name : column = "name"
    · simpa [name] using .same _
    · simpa [devices,name] using .absent
  obtain ⟨_,spec,asks,read⟩ := accepted_settings_are_read .vm "vm1" _ _ value (by decide) accepted
  refine ⟨accepted,returns,?_⟩
  rw [read _ List.mem_cons_self row returns]
  generalize field : "pci_passthrough" = key at asks
  cases asks with
  | devices => decide +kernel
  | cpu | ram | disk | power => simp at field

end Setting

end Hostkeeper
