import Hostkeeper.Proofs.Network.Pass
import Hostkeeper.Proofs.Schema.Decoding
import Hostkeeper.Proofs.System.Timezone

/-! A log level that is no level. The row counts without it, so a pass does what it would do if the column were not
there, and only what is skipped tells the two apart. -/
namespace Hostkeeper

open Column

section Rows

variable {fields : Fields} {column : String}

theorem Slot.takes_erase_iff {α : Type} {slot : Slot α} :
    slot.Takes (fields.erase column) ↔ (slot.column ≠ column → slot.Takes fields) := by
  rw [Slot.Takes,Slot.Takes,KeyMap.get?_erase]
  by_cases same : slot.column = column
  · rw [if_pos same]
    refine ⟨fun _ other => absurd same other,fun _ v found => ?_⟩
    cases found
  · rw [if_neg same]
    exact ⟨fun takes _ => takes,fun takes => takes same⟩

theorem Slot.keeps_of_erase {α : Type} {slot : Slot α} {r : α} (keeps : slot.Keeps (fields.erase column) r)
    (other : slot.column ≠ column) : slot.Keeps fields r := by
  rwa [Slot.Keeps,KeyMap.get?_erase,if_neg other] at keeps

namespace SystemSettings

theorem ok_iff {settings : SystemSettings} :
    decodeRow fields = .ok settings ↔ ∀ slot ∈ Table.system.slots, slot.Keeps fields settings := by
  have read := @Table.ok_iff .system fields settings
  rw [and_iff_left (fun nameless : Table.system.Nameless fields => nomatch nameless.1)] at read
  exact read

theorem takes_iff : (∀ slot ∈ Table.system.slots, slot.Takes fields) ↔
    ∃ settings : SystemSettings, decodeRow fields = .ok settings := by
  rw [Table.takes_all_iff]
  exact exists_congr fun settings => ok_iff.symm

end SystemSettings

end Rows

namespace Network

section Reports

variable (n : Network) (s : Snapshot) (state : State)
variable (rows : List (TypedRow InterfaceSpec)) (report : SyncReport) (h : Host)

theorem applyRows_report : n.applyRows rows report h =
    (report.merge (n.applyRows rows {} h).1,(n.applyRows rows {} h).2) := by
  induction rows generalizing report h with
  | nil => simp [applyRows]
  | cons row rest ih =>
    rw [applyRows,applyRows]
    rcases n.applyInterface row.value h with ⟨errors,after⟩
    dsimp only
    rw [recorded_row,recorded_row,ih _ after,
      ih ⟨({} : SyncReport).applied + (if errors.isEmpty then 1 else 0),_,_⟩ after]
    simp [SyncReport.merge,Nat.add_assoc]

theorem interfacePass_report : n.interfacePass rows report h =
    (report.merge (n.interfacePass rows {} h).1,(n.interfacePass rows {} h).2) := by
  unfold interfacePass
  rcases n.ensureBridge h with ⟨bridge,after⟩
  dsimp only
  rw [applyRows_report,n.applyRows_report rows (n.recordBridge {} bridge),recordBridge_eq,recordBridge_eq]
  simp [SyncReport.merge]

def interfacesPass : SyncReport × Host :=
  if s.typed InterfaceSpec = [] then ({},h) else n.interfacePass (s.typed InterfaceSpec) {} h

theorem sync_eq : n.sync s state =
    let system := n.systemPass s state
    let rest := n.interfacesPass s system.2.host
    (system.1.merge rest.1,⟨system.2.levels,rest.2⟩) := by
  unfold interfacesPass
  by_cases unread : s.typed InterfaceSpec = []
  · simp [sync_of_nil n s state unread,unread]
  · rw [sync_of_rows n s state unread,interfacePass_report]
    simp [unread]

theorem skipped_interfacesPass : (n.interfacesPass s h).1.skipped = [] := by
  unfold interfacesPass
  split
  · rfl
  next read => rw [(n.interfacePass_eq s {} h read).1]

end Reports

section Levels

variable {s s' : Snapshot} {row : Row}

/-- The second snapshot has the first row of host-wide settings without its log level, and the same interfaces. -/
structure Unleveled (row : Row) (s s' : Snapshot) : Prop where
  first : (s.table? "System").bind (·.first?) = some row
  bare : (s'.table? "System").bind (·.first?) = some {row with fields := row.fields.erase "logging_level"}
  interfaces : s'.table? "Interface" = s.table? "Interface"

theorem typed_congr (same : s'.table? "Interface" = s.table? "Interface") :
    s'.typed InterfaceSpec = s.typed InterfaceSpec := by
  cases found : s.table? "Interface" with
  | none => rw [typed_of_none found,typed_of_none (same.trans found)]
  | some table => rw [typed_of_table found,typed_of_table (same.trans found)]

theorem erase_erase (fields : Fields) (column : String) :
    (fields.erase column).erase column = fields.erase column := by
  refine KeyMap.ext_get? fun key => ?_
  simp only [KeyMap.get?_erase]
  split <;> rfl

theorem systemSettings_of_error {e : SchemaError} (first : (s.table? "System").bind (·.first?) = some row)
    (failed : decodeRow (α := SystemSettings) row.fields = .error e) : systemSettings s {} =
    match decodeRow (α := SystemSettings) (row.fields.erase "logging_level") with
    | .ok settings => (⟨0,[⟨"System.logging_level",e.message⟩],[]⟩,some settings)
    | .error _ => (⟨0,[⟨"System",e.message⟩],[]⟩,none) := by
  rw [systemSettings,show Table.name .system = "System" from rfl,first]
  simp only [failed]
  rfl

theorem systemSettings_of_ok {settings : SystemSettings} (first : (s.table? "System").bind (·.first?) = some row)
    (read : decodeRow row.fields = .ok settings) : systemSettings s {} = ({},some settings) := by
  rw [systemSettings,show Table.name .system = "System" from rfl,first]
  simp only [read]

/-- The log level that is no level. -/
def BadLevel (fields : Fields) : Prop := ¬(Cell.optional (.word LogLevel)).Takes (fields.get? "logging_level")

/-- The other columns of the row can be taken. -/
def OthersTaken (fields : Fields) : Prop :=
  ∀ slot ∈ Table.system.slots, slot.column ≠ "logging_level" → slot.Takes fields

theorem othersTaken_iff {fields : Fields} :
    OthersTaken fields ↔ ∃ settings : SystemSettings, decodeRow (fields.erase "logging_level") = .ok settings := by
  rw [← SystemSettings.takes_iff]
  exact forall₂_congr fun slot member => Slot.takes_erase_iff.symm

theorem exists_error_of_bad {fields : Fields} (bad : BadLevel fields) :
    ∃ e, decodeRow (α := SystemSettings) fields = .error e := by
  cases read : decodeRow (α := SystemSettings) fields with
  | error e => exact ⟨e,rfl⟩
  | ok settings =>
    have takes := SystemSettings.takes_iff.mpr ⟨settings,read⟩
      ⟨"logging_level",.optional (.word LogLevel),SystemSettings.loggingLevel⟩ (by simp [Table.slots])
    exact absurd takes bad

theorem loggingLevel_of_erased {fields : Fields} {settings : SystemSettings}
    (read : decodeRow (fields.erase "logging_level") = .ok settings) : settings.loggingLevel = none := by
  have keeps := SystemSettings.ok_iff.mp read
    ⟨"logging_level",.optional (.word LogLevel),SystemSettings.loggingLevel⟩ (by simp [Table.slots])
  rw [Slot.Keeps,KeyMap.get?_erase,if_pos rfl] at keeps
  exact keeps.unique .absent

theorem systemPass_unleveled (n : Network) (state : State) (unleveled : Unleveled row s s')
    (bad : BadLevel row.fields) :
    ∃ e, decodeRow (α := SystemSettings) row.fields = .error e ∧
      ((∃ settings : SystemSettings, decodeRow (row.fields.erase "logging_level") = .ok settings ∧
        let applied := n.system.apply settings {} state.levels state.host
        n.systemPass s state =
          (SyncReport.merge ⟨0,[⟨"System.logging_level",e.message⟩],[]⟩ applied.1,⟨applied.2.1,applied.2.2⟩) ∧
        n.systemPass s' state = (applied.1,⟨applied.2.1,applied.2.2⟩)) ∨
      ∃ e', decodeRow (α := SystemSettings) (row.fields.erase "logging_level") = .error e' ∧
        n.systemPass s state = (⟨0,[⟨"System",e.message⟩],[]⟩,state) ∧
        n.systemPass s' state = (⟨0,[⟨"System",e'.message⟩],[]⟩,state)) := by
  obtain ⟨e,failed⟩ := exists_error_of_bad bad
  have found := systemSettings_of_error unleveled.first failed
  refine ⟨e,failed,?_⟩
  cases read : decodeRow (α := SystemSettings) (row.fields.erase "logging_level") with
  | ok settings =>
    rw [read] at found
    refine .inl ⟨settings,rfl,?_,?_⟩
    · rw [systemPass,found]
      dsimp only
      rw [SystemApplier.apply_report]
    · rw [systemPass,systemSettings_of_ok unleveled.bare read]
  | error e' =>
    rw [read] at found
    have bare := systemSettings_of_error unleveled.bare read
    dsimp only at bare
    rw [erase_erase,read] at bare
    exact .inr ⟨e',rfl,by rw [systemPass,found],by rw [systemPass,bare]⟩

/-- A log level that is no level changes nothing that a pass does, and nothing of what it reports but what it skips. If
the other columns of the row can be taken, the level alone is skipped, and they are applied. -/
theorem bad_level_holds_nothing_back (n : Network) (state : State) (unleveled : Unleveled row s s')
    (bad : BadLevel row.fields) :
    let one := n.sync s state
    let other := n.sync s' state
    one.2 = other.2 ∧ one.1.applied = other.1.applied ∧ one.1.failed = other.1.failed ∧
    ∃ e, decodeRow (α := SystemSettings) row.fields = .error e ∧
      (OthersTaken row.fields → one.1.skipped = [⟨"System.logging_level",e.message⟩] ∧ other.1.skipped = [] ∧
        ∃ settings : SystemSettings, settings.loggingLevel = none ∧
          (∀ slot ∈ Table.system.slots, slot.column ≠ "logging_level" → slot.Keeps row.fields settings) ∧
          let applied := n.system.apply settings {} state.levels state.host
          let rest := n.interfacesPass s applied.2.2
          one.2 = ⟨state.levels,rest.2⟩ ∧ one.1.applied = applied.1.applied + rest.1.applied ∧
          one.1.failed = applied.1.failed ++ rest.1.failed) ∧
      (¬OthersTaken row.fields →
        ∃ e', decodeRow (α := SystemSettings) (row.fields.erase "logging_level") = .error e' ∧
        one.1.skipped = [⟨"System",e.message⟩] ∧ other.1.skipped = [⟨"System",e'.message⟩] ∧
        one.2 = ⟨state.levels,(n.interfacesPass s state.host).2⟩) := by
  have system (settings : SystemSettings) (unset : settings.loggingLevel = none) :
      (n.system.apply settings {} state.levels state.host).2.1 = state.levels := by
    rw [SystemApplier.apply_eq,SystemApplier.applyLevel_unset _ _ _ _ unset]
  have interfaces (h : Host) : n.interfacesPass s' h = n.interfacesPass s h := by
    rw [interfacesPass,interfacesPass,typed_congr unleveled.interfaces]
  obtain ⟨e,failed,⟨settings,read,one,other⟩ | ⟨e',read,one,other⟩⟩ :=
    systemPass_unleveled n state unleveled bad
  · have unset := loggingLevel_of_erased read
    have skipped := SystemApplier.skipped_apply n.system settings {} state.levels state.host
    have rest := n.skipped_interfacesPass s (n.system.apply settings {} state.levels state.host).2.2
    have taken : OthersTaken row.fields := othersTaken_iff.mpr ⟨settings,read⟩
    simp only [sync_eq,one,other,interfaces,SyncReport.merge,skipped,rest,system settings unset]
    refine ⟨trivial,by simp,by simp,e,failed,fun _ => ⟨by simp,by simp,settings,unset,?_,by simp⟩,?_⟩
    · intro slot member different
      exact Slot.keeps_of_erase (SystemSettings.ok_iff.mp read slot member) different
    · exact fun refused => absurd taken refused
  · have rest := n.skipped_interfacesPass s state.host
    have refused : ¬OthersTaken row.fields := by
      rw [othersTaken_iff,read]
      rintro ⟨_,impossible⟩
      cases impossible
    simp only [sync_eq,one,other,interfaces,SyncReport.merge,rest]
    refine ⟨trivial,trivial,trivial,e,failed,fun taken => absurd taken refused,fun _ => ?_⟩
    exact ⟨e',read,by simp,by simp,trivial⟩

/-- A row with a log level that there is not, and the same row without it. -/
def loudRow : Row :=
  ⟨"1",.ofList [("hostname",.text "edge1"),("timezone",.text "UTC"),("logging_level",.text "loud")]⟩

def loud : Snapshot := (Snapshot.new 1).withTable (.ofRows "System" [loudRow])

def unleveledLoud : Snapshot :=
  (Snapshot.new 1).withTable (.ofRows "System" [⟨"1",loudRow.fields.erase "logging_level"⟩])

def zoneNetwork : Network := ⟨SystemApplier.zoneApplier.tools,"br0",SystemApplier.zoneApplier⟩

/-- The host name and the time zone are applied, the latter over another one in its file. -/
theorem loud_row_is_applied :
    let state : State := ⟨{},.new (SystemApplier.zoneFiles (Text.Utf8.encode "CET\n"))⟩
    let after := zoneNetwork.sync loud state
    Unleveled loudRow loud unleveledLoud ∧ BadLevel loudRow.fields ∧
    after.2.host.calls = [⟨"hostname",["edge1"]⟩] ∧
    after.2.host.files.readBytes "/timezone" = .ok [0x55,0x54,0x43,10] ∧ after.1.applied = 2 ∧
    after.1.skipped.map (·.key) = ["System.logging_level"] := by
  intro state after
  have unleveled : Unleveled loudRow loud unleveledLoud := ⟨rfl,rfl,rfl⟩
  have bad : BadLevel loudRow.fields := by
    intro takes
    rcases takes (.text "loud") rfl with ⟨impossible,-⟩ | ⟨level,s,same,word⟩
    · cases impossible
    · cases same
      cases level <;> exact absurd word (by decide)
  have read : decodeRow (loudRow.fields.erase "logging_level") =
      .ok ({hostname := some "edge1", timezone := some "UTC"} : SystemSettings) := by decide +kernel
  obtain ⟨same,counted,-,e,-,taken,-⟩ := bad_level_holds_nothing_back zoneNetwork state unleveled bad
  obtain ⟨skipped,-⟩ := taken (othersTaken_iff.mpr ⟨_,read⟩)
  let settings : SystemSettings := {hostname := some "edge1", timezone := some "UTC"}
  have bare : zoneNetwork.sync unleveledLoud state =
      let applied := SystemApplier.zoneApplier.apply settings {} {} state.host
      (applied.1,⟨applied.2.1,applied.2.2⟩) := by
    rw [sync_of_nil zoneNetwork unleveledLoud state rfl,systemPass,systemSettings_of_ok unleveled.bare read]
    rfl
  have text : SystemApplier.IsText (some (Text.Utf8.encode "CET\n")) := by
    intro bytes held
    cases held
    exact ⟨_,rfl⟩
  obtain ⟨holds,report,-⟩ := SystemApplier.apply_of_text SystemApplier.zoneApplier settings {} {} state.host rfl
    (by decide +kernel) (SystemApplier.holds_zoneFiles _) text
  have content : SystemApplier.zoneBytes (Text.trim "UTC") = [0x55,0x54,0x43,10] := by decide +kernel
  rw [bare] at same counted
  refine ⟨unleveled,bad,?_,?_,?_,?_⟩
  · rw [show after.2 = _ from same]
    dsimp only
    rw [SystemApplier.host_apply,SystemApplier.calls_applyTimezone]
    rfl
  · rw [show after.2 = _ from same]
    exact (FileTree.readBytes_of_file holds).trans (congrArg Except.ok content)
  · rw [show after.1.applied = _ from counted]
    dsimp only
    rw [report]
    decide +kernel
  · rw [show after.1.skipped = _ from skipped]
    rfl

end Levels

end Network

end Hostkeeper
