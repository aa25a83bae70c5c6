import Hostkeeper.Proofs.Host.Files
import Hostkeeper.Proofs.Host.Writes
import Hostkeeper.Proofs.System.Settings
import Hostkeeper.Proofs.Text.Lines

/-! The file of the time zone. Whatever text it holds, it holds the time zone after a pass, and it is written only if it
did not before. A file that holds no text is not touched. -/
namespace Hostkeeper.SystemApplier

open FileTree (Holds)

/-- The file is missing, or it holds a text. -/
def IsText (held : Option (List UInt8)) : Prop := ∀ bytes, held = some bytes → ∃ s, bytes = Text.Utf8.encode s

def zoneBytes (timezone : String) : List UInt8 := Text.Utf8.encode (timezone ++ "\n")

section Writing

variable {h : Host} {path : String} {held : Option (List UInt8)} {bytes : List UInt8}

/-- The host after its file has been brought to some bytes, with a record of the write if there is one. -/
structure Brought (h after : Host) (path : String) (bytes : List UInt8) (wrote : Bool) : Prop where
  holds : Holds after.files path (some bytes)
  writes : after.writes = h.writes ++ if wrote then [path] else []

theorem writeTimezone_of_text (holds : Holds h.files path held) (text : IsText held) (timezone : String) :
    ∃ after, writeTimezone path timezone h = .ok (decide (held ≠ some (zoneBytes timezone)),after) ∧
      Brought h after path (zoneBytes timezone) (decide (held ≠ some (zoneBytes timezone))) := by
  obtain ⟨files,wrote,there⟩ := holds.write (zoneBytes timezone)
  have written : h.write path (zoneBytes timezone) = .ok {h with files, writes := h.writes ++ [path]} := by
    rw [Host.write,wrote]
    rfl
  unfold zoneBytes at written
  cases held with
  | none =>
    have read : h.files.readText path = .error .notFound := by
      rw [FileTree.readText,FileTree.readBytes_of_missing holds]
      rfl
    refine ⟨{h with files, writes := h.writes ++ [path]},?_,there,by simp⟩
    simp [writeTimezone,read,written,Except.map]
  | some bytes =>
    obtain ⟨current,rfl⟩ := text bytes rfl
    have read : h.files.readText path = .ok current := by
      rw [FileTree.readText,FileTree.readBytes_of_file holds]
      simp [bind,Except.bind,Text.Utf8.decode?_eq_some_iff.mpr rfl,pure,Except.pure]
    by_cases same : current = timezone ++ "\n"
    · refine ⟨h,?_,by rwa [same] at holds,?_⟩
      · simp [writeTimezone,read,same,zoneBytes]
      · simp [same,zoneBytes]
    · have differs : Text.Utf8.encode current ≠ zoneBytes timezone :=
        fun equal => same (Text.Utf8.encode_injective equal)
      refine ⟨{h with files, writes := h.writes ++ [path]},?_,there,by simp [differs]⟩
      simp [writeTimezone,read,same,written,differs,Except.map]

theorem writeTimezone_of_not_text (holds : Holds h.files path held) (foreign : ¬IsText held) (timezone : String) :
    writeTimezone path timezone h = .error .notText := by
  cases held with
  | none => exact absurd (fun bytes impossible => nomatch impossible) foreign
  | some bytes =>
    have undecoded : Text.Utf8.decode? bytes = none := by
      refine Text.Utf8.decode?_eq_none_iff.mpr fun text => foreign fun bytes' same => ?_
      cases same
      exact text
    have read : h.files.readText path = .error .notText := by
      rw [FileTree.readText,FileTree.readBytes_of_file holds]
      simp [bind,Except.bind,undecoded]
    simp [writeTimezone,read]

end Writing

section Passes

variable (a : SystemApplier) (settings : SystemSettings) (report : SyncReport) (s : LevelState) (h : Host)

/-- Applying the settings writes the file. What is reported and what the level was before make no difference. -/
def wroteTimezone : Bool :=
  ((a.apply settings {} {} h).2.2.writes.drop h.writes.length).contains a.timezoneFile

theorem host_apply : (a.apply settings report s h).2.2 =
    (a.applyTimezone settings {} (a.applyHostname settings {} h).2).2 := by rw [apply_eq]

theorem apply_unzoned : a.apply {settings with timezone := none} report s h =
    (report.merge ((a.applyHostname settings {} h).1.merge (a.applyLevel settings {} s).1),
      (a.applyLevel settings {} s).2,(a.applyHostname settings {} h).2) := by
  rw [apply_eq]
  have unzoned (h : Host) : a.applyTimezone {settings with timezone := none} {} h = ({},h) := rfl
  dsimp only
  rw [unzoned,SyncReport.empty_merge]
  rfl

variable {zone : String} {held : Option (List UInt8)}

theorem trimmed_of_set {settings : SystemSettings} (set : settings.timezone = some zone)
    (filled : Text.trim zone ≠ "") : settings.timezone.bind Text.trimmed? = some (Text.trim zone) := by
  rw [set,Option.bind_some]
  exact Text.trimmed?_eq_some_iff.mpr ⟨filled,rfl⟩

theorem apply_of_text (set : settings.timezone = some zone) (filled : Text.trim zone ≠ "")
    (holds : Holds (a.applyHostname settings {} h).2.files a.timezoneFile held)
    (text : IsText held) :
    Holds (a.apply settings report s h).2.2.files a.timezoneFile (some (zoneBytes (Text.trim zone))) ∧
    (a.apply settings report s h).1 = (a.apply {settings with timezone := none} report s h).1.recordApplied ∧
    a.wroteTimezone settings h = decide (held ≠ some (zoneBytes (Text.trim zone))) := by
  obtain ⟨after,written,brought⟩ := writeTimezone_of_text holds text (Text.trim zone)
  have zoned : a.applyTimezone settings {} (a.applyHostname settings {} h).2 = ({applied := 1},after) := by
    rw [applyTimezone,trimmed_of_set set filled]
    dsimp only
    rw [written]
    rfl
  refine ⟨?_,?_,?_⟩
  · rw [host_apply,zoned]
    exact brought.holds
  · rw [apply_eq,apply_unzoned]
    dsimp only
    rw [zoned]
    simp only [SyncReport.merge,SyncReport.recordApplied,SyncReport.mk.injEq,List.nil_append]
    exact ⟨by omega,trivial,trivial⟩
  · rw [wroteTimezone,host_apply,zoned,brought.writes,writes_applyHostname,List.drop_left]
    split <;> simp_all

theorem apply_of_not_text (set : settings.timezone = some zone) (filled : Text.trim zone ≠ "")
    (holds : Holds (a.applyHostname settings {} h).2.files a.timezoneFile held)
    (foreign : ¬IsText held) :
    (a.apply settings report s h).2.2.files = (a.applyHostname settings {} h).2.files ∧
    a.wroteTimezone settings h = false ∧
    let others := (a.apply {settings with timezone := none} report s h).1
    (a.apply settings report s h).1.applied = others.applied ∧
    (a.apply settings report s h).1.failed.Perm (⟨"System.timezone",OsError.notText.message⟩ :: others.failed) := by
  have failed := writeTimezone_of_not_text holds foreign (Text.trim zone)
  have zoned : a.applyTimezone settings {} (a.applyHostname settings {} h).2 =
      ({failed := [⟨"System.timezone",OsError.notText.message⟩]},(a.applyHostname settings {} h).2) := by
    rw [applyTimezone,trimmed_of_set set filled]
    dsimp only
    rw [failed]
    rfl
  refine ⟨by rw [host_apply,zoned],?_,?_⟩
  · rw [wroteTimezone,host_apply,zoned,writes_applyHostname,List.drop_length]
    rfl
  · rw [apply_unzoned,apply_eq]
    dsimp only
    rw [zoned]
    refine ⟨by simp [SyncReport.merge],?_⟩
    simp only [SyncReport.merge,List.singleton_append]
    rw [← List.append_assoc,← List.append_assoc]
    exact List.perm_middle

/-- Passes with one time zone, and whether each of them writes the file. Nothing else changes what the file holds. -/
inductive Passes (a : SystemApplier) (zone : String) : Option (List UInt8) → List Bool → Prop
  | nil (held : Option (List UInt8)) : Passes a zone held []
  | cons {settings : SystemSettings} {report : SyncReport} {s : LevelState} {h : Host}
      {held held' : Option (List UInt8)} {later : List Bool} (set : settings.timezone = some zone)
      (holds : Holds (a.applyHostname settings {} h).2.files a.timezoneFile held)
      (left : Holds (a.apply settings report s h).2.2.files a.timezoneFile held') (rest : Passes a zone held' later) :
      Passes a zone held (a.wroteTimezone settings h :: later)

theorem Passes.count_wrote {a : SystemApplier} {wrote : List Bool} (passes : Passes a zone held wrote)
    (filled : Text.trim zone ≠ "") :
    wrote.count true ≤ 1 ∧ (held = some (zoneBytes (Text.trim zone)) ∨ ¬IsText held → wrote.count true = 0) := by
  induction passes with
  | nil => simp
  | @cons settings report s h held held' later set holds left rest ih =>
    by_cases text : IsText held
    · -- The file holds the time zone from here on, so no later pass writes.
      obtain ⟨there,-,wrote⟩ := apply_of_text a settings report s h set filled holds text
      obtain rfl := left.unique there
      rw [List.count_cons,ih.2 (.inl rfl),wrote]
      by_cases same : held = some (zoneBytes (Text.trim zone)) <;> simp [same,text]
    · obtain ⟨files,wrote,-⟩ := apply_of_not_text a settings report s h set filled holds text
      rw [files] at left
      obtain rfl := left.unique holds
      rw [List.count_cons,wrote,ih.2 (.inr text)]
      simp

/-- Whatever text the file holds, or if there is none, a pass leaves the time zone in it with a line feed and counts it,
and the file is written only if it did not hold that. A file that holds no text stays as it is, and the time zone fails.
Passes with one time zone write at most once. -/
theorem timezone_is_written_once (set : settings.timezone = some zone) (filled : Text.trim zone ≠ "")
    (holds : Holds (a.applyHostname settings {} h).2.files a.timezoneFile held) :
    let after := a.apply settings report s h
    let others := (a.apply {settings with timezone := none} report s h).1
    let content := Text.Utf8.encode (Text.trim zone ++ "\n")
    (IsText held → Holds after.2.2.files a.timezoneFile (some content) ∧
      after.2.2.files.readBytes a.timezoneFile = .ok content ∧ after.1 = others.recordApplied ∧
      (a.wroteTimezone settings h = true ↔ held ≠ some content)) ∧
    (¬IsText held → after.2.2.files = (a.applyHostname settings {} h).2.files ∧
      a.wroteTimezone settings h = false ∧ after.1.applied = others.applied ∧
      after.1.failed.Perm (⟨"System.timezone",OsError.notText.message⟩ :: others.failed)) ∧
    ∀ wrote, Passes a zone held wrote → wrote.count true ≤ 1 := by
  refine ⟨fun text => ?_,apply_of_not_text a settings report s h set filled holds,fun wrote passes => ?_⟩
  · obtain ⟨there,counted,wrote⟩ := apply_of_text a settings report s h set filled holds text
    refine ⟨there,FileTree.readBytes_of_file there,counted,?_⟩
    rw [wrote,decide_eq_true_iff]
    rfl
  · exact (passes.count_wrote filled).1

end Passes

def zoneFiles (bytes : List UInt8) : FileTree := ⟨.ofList [("/timezone",.file bytes false)],[]⟩

def zoneApplier : SystemApplier := ⟨fun _ _ => ⟨.ok "",[]⟩,"/timezone",none⟩

theorem holds_zoneFiles (bytes : List UInt8) : Holds (zoneFiles bytes) "/timezone" (some bytes) := by
  have rooted : Rooted "/timezone" "timezone" false :=
    ⟨by simp,by decide +kernel,by decide +kernel,by decide +kernel,by decide +kernel,by decide +kernel⟩
  have found : (zoneFiles bytes).node? ["timezone"] = some (.file bytes false) := by
    have path : Location.path ["timezone"] = "/timezone" := by decide +kernel
    rw [FileTree.node?,path]
    rfl
  have unlinked (target : String) : (zoneFiles bytes).node? ["timezone"] ≠ some (.link target) := by simp [found]
  exact .file (FileTree.goal_of_rooted rooted unlinked _) found

theorem carriage_return_is_written_over :
    let host := Host.new (zoneFiles (Text.Utf8.encode "UTC\r\n"))
    let after := zoneApplier.apply {timezone := some " UTC "} {} {} host
    after.2.2.files.readBytes "/timezone" = .ok [0x55,0x54,0x43,10] ∧ after.1 = {applied := 1} ∧
      zoneApplier.wroteTimezone {timezone := some " UTC "} host = true := by
  intro host after
  have text : IsText (some (Text.Utf8.encode "UTC\r\n")) := by
    intro bytes same
    cases same
    exact ⟨_,rfl⟩
  have written := timezone_is_written_once zoneApplier {timezone := some " UTC "} {} {} host rfl (by decide +kernel)
    (holds_zoneFiles _)
  have content : Text.Utf8.encode (Text.trim " UTC " ++ "\n") = [0x55,0x54,0x43,10] := by decide +kernel
  obtain ⟨-,read,report,wrote⟩ := written.1 text
  refine ⟨read.trans (congrArg Except.ok content),report,wrote.mpr ?_⟩
  decide +kernel

/-- The byte begins no text, and the time zone never gets into the file. -/
theorem foreign_byte_stays :
    let after := zoneApplier.apply {timezone := some "UTC"} {} {} (.new (zoneFiles [0xFF]))
    after.2.2.files.readBytes "/timezone" = .ok [0xFF] ∧ after.1.applied = 0 ∧
      after.1.failed = [⟨"System.timezone","stream did not contain valid UTF-8"⟩] := by
  have foreign : ¬IsText (some [0xFF]) := by
    intro text
    exact Text.Utf8.decode?_eq_none_iff.mp (by decide +kernel) (text _ rfl)
  obtain ⟨files,-,applied,failed⟩ := apply_of_not_text zoneApplier {timezone := some "UTC"} {} {}
    (.new (zoneFiles [0xFF])) rfl (by decide +kernel) (holds_zoneFiles _) foreign
  refine ⟨?_,applied,List.perm_singleton.mp failed⟩
  rw [files]
  exact FileTree.readBytes_of_file (holds_zoneFiles _)

end Hostkeeper.SystemApplier
