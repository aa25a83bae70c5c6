import Hostkeeper.Proofs.Schema.Record
import Hostkeeper.Proofs.Store.Datum

/-! Columns on their way through the store. It gives a set of one back as its element if it likes, and
a column that was not sent as the empty set or not at all; all else comes back as it was sent. What is
decoded then shows every value that was written, if only null, atoms and lists of texts were. -/
namespace Hostkeeper.Wire

open Column (Shown)

/-- What may come back for a column. -/
inductive GivenBack : Option Json → Option Json → Prop
  | absent : GivenBack none none
  | unset : GivenBack none (some (.list [.text "set",.list []]))
  | same (datum) : GivenBack (some datum) (some datum)
  | bare (item) : GivenBack (some (.list [.text "set",.list [item]])) (some item)

/-- The decoded columns of a row, whose columns were sent in this object. -/
def Returns (sent : Json) (fields : Fields) : Prop :=
  ∃ columns returned : Fields, sent = .ofFields columns ∧
    (∀ column, GivenBack (columns.get? column) (returned.get? column)) ∧
    fields = returned.map fun _ datum => decode datum

theorem ofFields_injective {a b : Fields} (same : Json.ofFields a = .ofFields b) : a = b :=
  KeyMap.ext (Json.object.inj same)

theorem encode_atom (v : Json) (atomic : v.IsAtom) : encode v = v := by
  cases v with
  | bool | int | real | text => simp [encode]
  | null | list | object => cases atomic

theorem decode_atom (v : Json) (atomic : v.IsAtom) : decode v = v := by
  cases v with
  | bool | int | real | text => simp [decode]
  | null | list | object => cases atomic

theorem encodeItems_texts (items : List String) : encodeItems (items.map .text) = items.map .text := by
  induction items with
  | nil => rfl
  | cons item items ih => rw [List.map_cons,encodeItems,encode_atom (.text item) trivial,ih]

theorem decodeItems_texts (items : List String) : decodeItems (items.map .text) = items.map .text := by
  induction items with
  | nil => rfl
  | cons item items ih => rw [List.map_cons,decodeItems,decode_atom (.text item) trivial,ih]

theorem shown_of_unsent {found : Option Json} (given : GivenBack none found) : Shown .null (found.map decode) := by
  cases given with
  | absent => exact .absent
  | unset =>
    rw [Option.map_some,decode]
    exact .same .null

theorem shown_of_sent {value : Json} {found : Option Json} (flat : value.Flat)
    (given : GivenBack (some (encode value)) found) : Shown value (found.map decode) := by
  generalize sent : encode value = datum at given
  cases flat with
  | null =>
    rw [encode] at sent
    subst sent
    cases given
    rw [Option.map_some,decode]
    exact .same .null
  | atom _ atomic =>
    rw [encode_atom value atomic] at sent
    subst sent
    cases given with
    | same =>
      rw [Option.map_some,decode_atom value atomic]
      exact .same value
    | bare => cases atomic
  | texts items =>
    rw [encode,encodeItems_texts] at sent
    subst sent
    generalize body : items.map Json.text = texts at given
    cases given with
    | same =>
      rw [Option.map_some]
      cases items with
      | nil =>
        subst body
        rw [List.map_nil,decode]
        exact .empty
      | cons item items =>
        subst body
        rw [List.map_cons,decode,decode_atom (.text item) trivial,decodeItems_texts]
        exact .same _
    | bare item =>
      obtain ⟨s,rfl,rfl⟩ : ∃ s, items = [s] ∧ Json.text s = item := by
        simpa [List.map_eq_singleton_iff] using body
      rw [Option.map_some,decode_atom (.text s) trivial]
      exact .bare _

/-- An unset column may be left out; every other one is sent as its datum. -/
theorem sent_column {fields columns : Fields}
    (sent : .ofFields columns = encodeInsert fields ∨ .ofFields columns = encodeUpdate fields) (column : String) :
    columns.get? column = some (encode ((fields.get? column).getD .null)) ∨
      columns.get? column = none ∧ (fields.get? column).getD .null = .null := by
  rcases sent with sent | sent
  · rw [ofFields_injective sent,KeyMap.get?_map,KeyMap.get?_filter]
    cases fields.get? column with
    | none => exact .inr ⟨rfl,rfl⟩
    | some value =>
      cases value with
      | null => exact .inr ⟨rfl,rfl⟩
      | bool | int | real | text | list | object => exact .inl rfl
  · rw [ofFields_injective sent,KeyMap.get?_map]
    cases fields.get? column with
    | none => exact .inr ⟨rfl,rfl⟩
    | some value => exact .inl rfl

theorem shown_of_returns {fields got : Fields} {sent : Json}
    (written : sent = encodeInsert fields ∨ sent = encodeUpdate fields) (returns : Returns sent got)
    (column : String) (flat : ((fields.get? column).getD .null).Flat) :
    Shown ((fields.get? column).getD .null) (got.get? column) := by
  obtain ⟨columns,returned,rfl,given,rfl⟩ := returns
  rw [KeyMap.get?_map]
  have back := given column
  rcases sent_column written column with datum | ⟨unsent,null⟩
  · rw [datum] at back
    exact shown_of_sent flat back
  · rw [unsent] at back
    rw [null]
    exact shown_of_unsent back

theorem still_shown {fields got : Fields} {sent : Json}
    (written : sent = encodeInsert fields ∨ sent = encodeUpdate fields) (returns : Returns sent got)
    {column : String} {value : Json} (flat : value.Flat) (shown : Shown value (fields.get? column)) :
    Shown value (got.get? column) := by
  have back := shown_of_returns written returns column
  generalize fields.get? column = found at shown back
  cases shown with
  | absent => exact back .null
  | missing | empty =>
    have null := back .null
    generalize got.get? column = again at null
    cases null with
    | absent => exact .missing
    | same => exact .empty
  | bare item =>
    obtain ⟨s,rfl⟩ := flat.text_of_single
    have text := back (.atom _ trivial)
    generalize got.get? column = again at text
    cases text
    exact .bare _
  | same => exact back flat

section Records

variable {α : Type} [Record α] [LawfulRecord α]

theorem decodeRow_of_returns {r : α} {fields got : Fields} {sent : Json} (writable : LawfulRecord.Writable r)
    (named : Record.addressing α = .keyed → (Record.name r).getD "" ≠ "") (shown : Shows fields r)
    (written : sent = encodeInsert fields ∨ sent = encodeUpdate fields) (returns : Returns sent got) :
    Hostkeeper.decodeRow got = .ok r :=
  decodeRow_of_shows writable named fun e member =>
    still_shown written returns (LawfulRecord.flat r e member) (shown e member)

/-- Whether it is added or changed, the row of a record is read as the record when it comes back. -/
def Survives (r : α) : Prop :=
  ∀ sent ∈ [encodeInsert (encodeRecord r),encodeUpdate (encodeRecord r)], ∀ got, Returns sent got →
    Hostkeeper.decodeRow got = .ok r

theorem survives_of_writable {r : α} (writable : LawfulRecord.Writable r)
    (named : Record.addressing α = .keyed → (Record.name r).getD "" ≠ "") : Survives r := by
  intro sent written got returns
  refine decodeRow_of_returns writable named (fun e member => ?_) (by simpa using written) returns
  rw [get?_encodeRecord member]
  exact .same e.2

end Records

/-- Records of every table come back from the store as they were, if their floats are finite and, in a
keyed table, their name is not empty. -/
theorem records_survive_the_store :
    (∀ r : SystemSettings, Survives r) ∧ (∀ r : InterfaceSpec, r.name ≠ "" → Survives r) ∧
    (∀ r : StorageSpec, Survives r) ∧ (∀ r : VmSpec, r.name ≠ "" → Survives r) ∧
    ∀ r : TelemetryRecord, r.Finite → Survives r := by
  refine ⟨fun r => ?_,fun r named => ?_,fun r => ?_,fun r named => ?_,fun r finite => ?_⟩
  · exact survives_of_writable trivial fun keyed => by cases keyed
  · exact survives_of_writable trivial fun _ => named
  · exact survives_of_writable trivial fun keyed => by cases keyed
  · exact survives_of_writable trivial fun _ => named
  · exact survives_of_writable finite fun keyed => by cases keyed

/-- A machine with one device, whose id looks like a tag of the wire. -/
def taggedDevice : VmSpec := {name := "vm1", cpu := some 2, pciPassthrough := ["uuid"]}

/-- The row of the machine as the store may give it back, its one device bare. -/
def bareDevice : Fields :=
  .ofList [("cpu",.int 2),("disk_path",.null),("name",.text "vm1"),("pci_passthrough",.text "uuid")]

theorem tagged_device_survives : taggedDevice.name ≠ "" ∧
    Returns (encodeInsert (encodeRecord taggedDevice)) bareDevice ∧
    Hostkeeper.decodeRow bareDevice = .ok taggedDevice := by
  have named : taggedDevice.name ≠ "" := by decide
  have returns : Returns (encodeInsert (encodeRecord taggedDevice)) bareDevice := by
    refine ⟨.ofList [("cpu",.int 2),("name",.text "vm1"),("pci_passthrough",.list [.text "set",.list [.text "uuid"]])],
      .ofList [("cpu",.int 2),("disk_path",.list [.text "set",.list []]),("name",.text "vm1"),
        ("pci_passthrough",.text "uuid")],by decide +kernel,fun column => ?_,by decide +kernel⟩
    simp only [KeyMap.get?_ofList,List.reverse_cons,List.reverse_nil,List.nil_append,List.cons_append,lookupEntry]
    by_cases devices : column = "pci_passthrough"
    · simpa [devices] using .bare _
    by_cases name : column = "name"
    · simpa [name] using .same _
    by_cases disk : column = "disk_path"
    · simpa [disk] using .unset
    by_cases cpu : column = "cpu"
    · simpa [cpu] using .same _
    · simpa [devices,name,disk,cpu] using .absent
  exact ⟨named,returns,records_survive_the_store.2.2.2.1 taggedDevice named _ List.mem_cons_self _ returns⟩

end Hostkeeper.Wire
