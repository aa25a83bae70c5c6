import Hostkeeper.System

/-! What each host-wide setting adds to a report. No setting changes what was reported before it. -/
namespace Hostkeeper

namespace SyncReport

variable (r other more : SyncReport)

@[simp] theorem merge_empty : r.merge {} = r := by simp [merge]

@[simp] theorem empty_merge : ({} : SyncReport).merge r = r := by simp [merge]

theorem merge_assoc : (r.merge other).merge more = r.merge (other.merge more) := by simp [merge,Nat.add_assoc]

theorem recordApplied_eq : r.recordApplied = r.merge {applied := 1} := by simp [recordApplied,merge]

theorem recordFailure_eq (key error : String) : r.recordFailure key error = r.merge {failed := [⟨key,error⟩]} := by
  simp [recordFailure,merge]

end SyncReport

namespace SystemApplier

variable (a : SystemApplier) (settings : SystemSettings) (report : SyncReport) (s : LevelState) (h : Host)

theorem applyHostname_report : a.applyHostname settings report h =
    (report.merge (a.applyHostname settings {} h).1,(a.applyHostname settings {} h).2) := by
  unfold applyHostname
  cases settings.hostname.bind Text.trimmed? with
  | none => simp
  | some hostname =>
    dsimp only
    rcases h.runChecked a.tools ⟨"hostname",[hostname]⟩ with ⟨_ | _,after⟩
    · simp [SyncReport.recordFailure_eq]
    · simp [SyncReport.recordApplied_eq]

theorem writes_applyHostname : (a.applyHostname settings report h).2.writes = h.writes := by
  unfold applyHostname
  split
  · rfl
  next hostname _ =>
    have kept : (h.runChecked a.tools ⟨"hostname",[hostname]⟩).2.writes = h.writes := rfl
    generalize h.runChecked a.tools ⟨"hostname",[hostname]⟩ = result at kept ⊢
    rcases result with ⟨_ | _,after⟩ <;> exact kept

/-- The file is left alone, or it is written whole and the host keeps a record of that. -/
theorem writeTimezone_cases {path timezone : String} {h after : Host} {wrote : Bool}
    (done : writeTimezone path timezone h = .ok (wrote,after)) : wrote = false ∧ after = h ∨
      wrote = true ∧ ∃ files, h.files.write path (Text.Utf8.encode (timezone ++ "\n")) = .ok files ∧
        after = {h with files, writes := h.writes ++ [path]} := by
  have written
      (done : (h.write path (Text.Utf8.encode (timezone ++ "\n"))).map (fun h => (true,h)) = .ok (wrote,after)) :
      wrote = true ∧ ∃ files, h.files.write path (Text.Utf8.encode (timezone ++ "\n")) = .ok files ∧
        after = {h with files, writes := h.writes ++ [path]} := by
    unfold Host.write at done
    cases put : h.files.write path (Text.Utf8.encode (timezone ++ "\n")) with
    | error e => simp [put,Except.map] at done
    | ok files =>
      simp only [put,Except.map,Except.ok.injEq,Prod.mk.injEq] at done
      exact ⟨done.1.symm,files,rfl,done.2.symm⟩
  unfold writeTimezone at done
  dsimp only at done
  split at done
  · split at done
    · cases done
      exact .inl ⟨rfl,rfl⟩
    · exact .inr (written done)
  · exact .inr (written done)
  · cases done

theorem calls_applyTimezone : (a.applyTimezone settings report h).2.calls = h.calls := by
  unfold applyTimezone
  split
  · rfl
  · split
    next done =>
      obtain ⟨-,rfl⟩ | ⟨-,files,-,rfl⟩ := writeTimezone_cases done
      · rfl
      · rfl
    next => rfl

theorem applyTimezone_report : a.applyTimezone settings report h =
    (report.merge (a.applyTimezone settings {} h).1,(a.applyTimezone settings {} h).2) := by
  unfold applyTimezone
  cases settings.timezone.bind Text.trimmed? with
  | none => simp
  | some timezone =>
    dsimp only
    cases writeTimezone a.timezoneFile timezone h with
    | error e => simp [SyncReport.recordFailure_eq]
    | ok written => simp [SyncReport.recordApplied_eq]

theorem applyLevel_report : a.applyLevel settings report s =
    (report.merge (a.applyLevel settings {} s).1,(a.applyLevel settings {} s).2) := by
  unfold applyLevel
  cases settings.loggingLevel with
  | none => simp
  | some level =>
    cases a.control with
    | none => simp
    | some control =>
      dsimp only
      split
      · simp
      · cases control s.asked level <;> simp [SyncReport.recordFailure_eq,SyncReport.recordApplied_eq]

/-- Each setting is applied on its own, after those before it. -/
theorem apply_eq : a.apply settings report s h =
    let named := a.applyHostname settings {} h
    let zoned := a.applyTimezone settings {} named.2
    let leveled := a.applyLevel settings {} s
    (report.merge (named.1.merge (zoned.1.merge leveled.1)),leveled.2,zoned.2) := by
  unfold apply
  dsimp only
  rw [applyHostname_report a settings report h]
  dsimp only
  rw [applyTimezone_report,applyLevel_report]
  simp only [SyncReport.merge_assoc]

theorem apply_report : a.apply settings report s h =
    (report.merge (a.apply settings {} s h).1,(a.apply settings {} s h).2) := by
  rw [apply_eq,apply_eq a settings {}]
  simp

theorem skipped_apply : (a.apply settings report s h).1.skipped = report.skipped := by
  have named : (a.applyHostname settings {} h).1.skipped = [] := by
    unfold applyHostname
    split
    · rfl
    · split <;> rfl
  have zoned (h : Host) : (a.applyTimezone settings {} h).1.skipped = [] := by
    unfold applyTimezone
    split
    · rfl
    · split <;> rfl
  have leveled : (a.applyLevel settings {} s).1.skipped = [] := by
    unfold applyLevel
    split
    · split
      · rfl
      · split <;> rfl
    · rfl
  simp [apply_eq,SyncReport.merge,named,zoned,leveled]

theorem applyLevel_unset (unset : settings.loggingLevel = none) : a.applyLevel settings report s = (report,s) := by
  rw [applyLevel,unset]

end SystemApplier

end Hostkeeper
