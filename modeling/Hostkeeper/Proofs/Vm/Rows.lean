import Hostkeeper.Proofs.Store.Listing
import Hostkeeper.Proofs.Vm.Supervisor

/-! What a pass makes of the rows of a snapshot. Three views of a row have to agree: its name
column as it stands, the name in the record that it reads as, and its key in the snapshot. -/
namespace Hostkeeper

/-- A row that can be read has a name column of its own, the name of its record. -/
theorem name?_of_decodeRow {row : Row} {spec : VmSpec} (decoded : decodeRow row.fields = .ok spec) :
    row.name? = some spec.name ∧ spec.name ≠ "" := by
  obtain ⟨name,filled,-,called,-,named⟩ := Row.named_of_decodeRow (t := .virtualMachine) rfl decoded
  obtain rfl : spec.name = name := Option.some.inj named
  exact ⟨called,filled⟩

namespace Supervisor

variable {snapshot : Snapshot} {name : String}

/-- The snapshot has this row, and its name column is this text, which is not empty. -/
def HasRow (snapshot : Snapshot) (name : String) (row : Row) : Prop :=
  row.name? = some name ∧ ∃ table key, snapshot.table? "VirtualMachine" = some table ∧ table.get? key = some row

/-- The table of machines is made by adding rows, whatever they hold. -/
def Built (snapshot : Snapshot) : Prop :=
  ∀ table, snapshot.table? "VirtualMachine" = some table → ∃ name rows, table = .ofRows name rows

theorem hasRow_unique (built : Built snapshot) {row other : Row} (first : HasRow snapshot name row)
    (second : HasRow snapshot name other) : row = other := by
  obtain ⟨named,table,key,found,held⟩ := first
  obtain ⟨named',table',key',found',held'⟩ := second
  cases found.symm.trans found'
  obtain ⟨_,rows,rfl⟩ := built table found
  have keys : key = key' := by
    rw [← (TableSnapshot.mem_of_get?_ofRows held).2,← (TableSnapshot.mem_of_get?_ofRows held').2,Row.key,Row.key,
      named,named']
    rfl
  rw [keys] at held
  exact Option.some.inj (held.symm.trans held')

def desired (snapshot : Snapshot) : KeyMap VmSpec :=
  desiredSpecs ((snapshot.decode (α := VmSpec)).rows.map (·.value))

def unreadable (snapshot : Snapshot) : List String := (snapshot.decode (α := VmSpec)).rejectedNames

theorem mem_decoded_iff (spec : VmSpec) : spec ∈ (snapshot.decode (α := VmSpec)).rows.map (·.value) ↔
    ∃ row, HasRow snapshot spec.name row ∧ decodeRow row.fields = .ok spec := by
  unfold Snapshot.decode
  split
  next table found =>
    rw [TableSnapshot.mem_values_decode_iff]
    constructor
    · rintro ⟨key,row,held,read⟩
      exact ⟨row,⟨(name?_of_decodeRow read).1,table,key,found,held⟩,read⟩
    · rintro ⟨row,⟨_,table',key,found',held⟩,read⟩
      cases found.symm.trans found'
      exact ⟨key,row,held,read⟩
  next absent =>
    refine ⟨fun member => by simp at member,?_⟩
    rintro ⟨_,⟨_,table,_,found,_⟩,_⟩
    cases absent.symm.trans found

theorem mem_unreadable_iff : name ∈ unreadable snapshot ↔
    ∃ row error, HasRow snapshot name row ∧ decodeRow (α := VmSpec) row.fields = .error error := by
  unfold unreadable Snapshot.decode
  split
  next table found =>
    rw [TableSnapshot.mem_rejectedNames_iff]
    constructor
    · rintro ⟨key,row,error,held,read,named⟩
      exact ⟨row,error,⟨named,table,key,found,held⟩,read⟩
    · rintro ⟨row,error,⟨named,table',key,found',held⟩,read⟩
      cases found.symm.trans found'
      exact ⟨key,row,error,held,read,named⟩
  next absent =>
    refine ⟨fun member => by simp [Decoded.rejectedNames] at member,?_⟩
    rintro ⟨_,_,⟨_,table,_,found,_⟩,_⟩
    cases absent.symm.trans found

theorem get?_desired_iff (built : Built snapshot) (spec : VmSpec) : (desired snapshot).get? name = some spec ↔
    ∃ row, HasRow snapshot name row ∧ decodeRow row.fields = .ok spec := by
  have wanted {spec : VmSpec} (found : (desired snapshot).get? name = some spec) :
      ∃ row, HasRow snapshot name row ∧ decodeRow row.fields = .ok spec := by
    obtain ⟨spec',member,same⟩ := List.mem_map.mp (KeyMap.mem_of_get?_ofList found)
    obtain ⟨rfl,rfl⟩ := Prod.mk.inj same
    exact (mem_decoded_iff spec').mp (List.mem_filter.mp member).1
  refine ⟨wanted,?_⟩
  rintro ⟨row,has,read⟩
  obtain ⟨named,filled⟩ := name?_of_decodeRow read
  cases has.1.symm.trans named
  have member : (spec.name,spec) ∈ (((snapshot.decode (α := VmSpec)).rows.map (·.value)).filter
      (·.name ≠ "")).map fun spec => (spec.name,spec) := by
    refine List.mem_map.mpr ⟨spec,List.mem_filter.mpr ⟨(mem_decoded_iff spec).mpr ⟨row,has,read⟩,?_⟩,rfl⟩
    simpa using filled
  obtain ⟨last,found⟩ := KeyMap.exists_get?_ofList member
  obtain ⟨other,has',read'⟩ := wanted found
  cases hasRow_unique built has has'
  cases read.symm.trans read'
  exact found

/-- The snapshot lets a machine be stopped: it has no row of that name, or one that says so. -/
def MayStop (snapshot : Snapshot) (name : String) : Prop :=
  (∀ row, ¬HasRow snapshot name row) ∨
    ∃ row, ∃ spec : VmSpec, HasRow snapshot name row ∧ decodeRow row.fields = .ok spec ∧ spec.state = some .stop

theorem isUnwanted_iff (built : Built snapshot) :
    isUnwanted (desired snapshot) (unreadable snapshot) name = true ↔ MayStop snapshot name := by
  unfold isUnwanted
  split
  next spec found =>
    obtain ⟨row,has,read⟩ := (get?_desired_iff built spec).mp found
    rw [decide_eq_true_eq]
    constructor
    · intro stop
      exact .inr ⟨row,spec,has,read,stop⟩
    · rintro (absent | ⟨row',spec',has',read',stop⟩)
      · exact absurd has (absent row)
      · cases hasRow_unique built has has'
        cases read.symm.trans read'
        exact stop
  next absent =>
    rw [Bool.not_eq_true',List.contains_eq_mem,decide_eq_false_iff_not,mem_unreadable_iff]
    have undecoded {row : Row} {spec : VmSpec} (has : HasRow snapshot name row)
        (read : decodeRow row.fields = .ok spec) : False := by
      cases absent.symm.trans ((get?_desired_iff built spec).mpr ⟨row,has,read⟩)
    constructor
    · intro readable
      refine .inl fun row has => ?_
      cases read : decodeRow (α := VmSpec) row.fields with
      | ok spec => exact undecoded has read
      | error error => exact readable ⟨row,error,has,read⟩
    · rintro (none | ⟨row,spec,has,read,_⟩)
      · rintro ⟨row,_,has,_⟩
        exact none row has
      · exact absurd read (undecoded has)

end Supervisor

end Hostkeeper
