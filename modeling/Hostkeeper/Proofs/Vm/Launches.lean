import Hostkeeper.Proofs.Vm.Frames

/-! What a series of starts comes to: the launcher answers the commands of the machines that are due, one after
the other, and each answer is about its own machine. -/
namespace Hostkeeper.Supervisor

open State

variable {v : Supervisor} {s t : State} {name : String}

section Starts

/-- What the launcher answers to commands, one after the other. -/
def answers (v : Supervisor) : List LaunchCommand → List LaunchCommand → List (LaunchCommand × Except OsError Behaviour)
  | _, [] => []
  | history, command :: rest => (command,v.launcher history command) :: answers v (history ++ [command]) rest

def commands (v : Supervisor) (specs : List VmSpec) : List LaunchCommand :=
  specs.filterMap fun spec => (LaunchCommand.forVm v.qemuBin spec).toOption

def isAccepted (answer : LaunchCommand × Except OsError Behaviour) : Bool :=
  match answer.2 with
  | .error _ => false
  | .ok _ => true

/-- What is reported of a launch that failed. -/
def launchFailure? (answer : LaunchCommand × Except OsError Behaviour) : Option RowFailure :=
  match answer.2 with
  | .error error => some ⟨answer.1.name,(VmError.launch answer.1.name error).message⟩
  | .ok _ => none

def diskSkip? (spec : VmSpec) : Option RowSkip :=
  if spec.disk = none then some ⟨spec.name,(VmError.missingDisk spec.name).message⟩ else none

/-- A name is not tracked any more, and nothing else has happened to it. -/
structure Dropped (name : String) (s after : State) : Prop where
  untracked : after.tracked.get? name = none
  processes : SameExcept name none s after

/-- After one launch for a name: a new process is tracked under it, or none is. -/
inductive Answered (name : String) (s after : State) : Except OsError Behaviour → Prop
  | refused {error} (dropped : Dropped name s after) : Answered name s after (.error error)
  | accepted {behaviour i} (fresh : s.processes.length ≤ i) (tracked : after.tracked.get? name = some ⟨i,false⟩)
      (started : after.processes[i]? = some (.start name behaviour after.now))
      (processes : SameExcept name (some i) s after) : Answered name s after (.ok behaviour)

def isDue (s : State) (spec : VmSpec) : Bool := spec.state = some .run && !s.isRunning spec.name

/-- The report of the starts, behind what was reported before. -/
def reportStarts (v : Supervisor) (history : List LaunchCommand) (specs : List VmSpec) (report : SyncReport) :
    SyncReport :=
  let answered := answers v history (commands v specs)
  ⟨report.applied + (answered.filter isAccepted).length,report.skipped ++ specs.filterMap diskSkip?,
    report.failed ++ answered.filterMap launchFailure?⟩

/-- What the starts of machines that are due have led to. -/
structure Started (v : Supervisor) (due : List VmSpec) (report : SyncReport) (s : State) (result : SyncReport × State) :
    Prop where
  now : result.2.now = s.now
  size : s.processes.length ≤ result.2.processes.length
  launches : result.2.launches = s.launches ++ commands v due
  report : result.1 = reportStarts v s.launches due report
  launched : ∀ answer ∈ answers v s.launches (commands v due), Answered answer.1.name s result.2 answer.2
  diskless : ∀ spec ∈ due, spec.disk = none → Dropped spec.name s result.2
  others : ∀ name, (∀ spec ∈ due, spec.name ≠ name) → Alike name s result.2

theorem Dropped.after {after : State} (dropped : Dropped name s t) (alike : Alike name t after) :
    Dropped name s after :=
  ⟨alike.tracked.trans dropped.untracked,dropped.processes.trans alike.processes⟩

theorem Answered.after {after : State} {answer : Except OsError Behaviour} (answered : Answered name s t answer)
    (alike : Alike name t after) (order : after.now = t.now) : Answered name s after answer := by
  cases answered with
  | refused dropped => exact .refused (dropped.after alike)
  | accepted fresh tracked started processes =>
    refine .accepted fresh (alike.tracked.trans tracked) ?_ (processes.trans (alike.sameExcept _))
    rw [order]
    exact (alike.processes _ _ rfl (Option.some_ne_none _)).mpr started

theorem Dropped.before {after : State} (dropped : Dropped name t after) (alike : Alike name s t) :
    Dropped name s after :=
  ⟨dropped.untracked,alike.processes.trans dropped.processes⟩

theorem Answered.before {after : State} {answer : Except OsError Behaviour} (answered : Answered name t after answer)
    (alike : Alike name s t) (size : s.processes.length ≤ t.processes.length) : Answered name s after answer := by
  cases answered with
  | refused dropped => exact .refused (dropped.before alike)
  | accepted fresh tracked started processes =>
    exact .accepted (Nat.le_trans size fresh) tracked started ((alike.sameExcept _).trans processes)

theorem answers_append (v : Supervisor) (history first second : List LaunchCommand) :
    answers v history (first ++ second) = answers v history first ++ answers v (history ++ first) second := by
  induction first generalizing history with
  | nil => simp [answers]
  | cons command rest ih => simp [answers,ih]

theorem commands_append (v : Supervisor) (first second : List VmSpec) :
    commands v (first ++ second) = commands v first ++ commands v second := List.filterMap_append

theorem mem_answers {history commands : List LaunchCommand} {answer : LaunchCommand × Except OsError Behaviour}
    (member : answer ∈ answers v history commands) : answer.1 ∈ commands := by
  induction commands generalizing history with
  | nil => cases member
  | cons command rest ih =>
    rcases List.mem_cons.mp member with rfl | inside
    · exact List.mem_cons_self
    · exact List.mem_cons_of_mem _ (ih inside)

theorem mem_commands {specs : List VmSpec} {command : LaunchCommand} (member : command ∈ commands v specs) :
    ∃ spec ∈ specs, LaunchCommand.forVm v.qemuBin spec = .ok command ∧ spec.name = command.name := by
  obtain ⟨spec,inside,built⟩ := List.mem_filterMap.mp member
  rcases forVm_spec v.qemuBin spec with ⟨_,failed⟩ | ⟨_,other,made,named⟩
  · rw [failed] at built
    cases built
  · rw [made] at built
    cases built
    exact ⟨spec,inside,made,named.symm⟩

theorem Started.nothing (v : Supervisor) (report : SyncReport) (s : State) : Started v [] report s (report,s) :=
  ⟨rfl,Nat.le_refl _,(List.append_nil _).symm,by simp [reportStarts,commands,answers],by simp [commands,answers],
    by simp,fun name _ => .refl name s⟩

/-- One machine: it is due, or nothing happens. -/
theorem started_startWanted (owned : Owned s) (spec : VmSpec) (report : SyncReport) :
    Started v ([spec].filter (isDue s)) report s (v.startWanted spec.name spec report s) := by
  have nothing (undue : isDue s spec = false) : Started v ([spec].filter (isDue s)) report s (report,s) := by
    rw [List.filter_cons_of_neg (by simp [undue]),List.filter_nil]
    exact .nothing v report s
  unfold startWanted
  split
  next other => exact nothing (by simp [isDue,other])
  next run =>
    rw [not_not] at run
    have frame (name : String) (apart : (Action.start spec).target ≠ name) : Alike name s (v.start spec s).2 :=
      alike_perform owned apart
    have outcome := starts v spec s
    generalize v.start spec s = result at outcome frame
    have due (idle : s.isRunning spec.name = false) : [spec].filter (isDue s) = [spec] :=
      List.filter_cons_of_pos (by simp [isDue,run,idle])
    cases outcome with
    | alive running => exact nothing (by simp [isDue,running])
    | diskless idle bare =>
      have built : commands v [spec] = [] := by simp [commands,LaunchCommand.forVm,bare,Except.toOption]
      rw [due idle]
      refine ⟨rfl,Nat.le_refl _,?_,?_,?_,?_,fun name apart => frame name (apart spec (by simp))⟩
      · rw [built,List.append_nil]
        rfl
      · simp [reportStarts,built,answers,diskSkip?,bare,SyncReport.recordSkipped]
      · simp [built,answers]
      · simp only [List.mem_singleton,forall_eq]
        exact fun _ => ⟨by simp [State.untrack],.of_eq rfl _⟩
    | @refused command error idle disk named refusal built =>
      have made : commands v [spec] = [command] := by simp [commands,built,Except.toOption]
      rw [due idle]
      refine ⟨rfl,Nat.le_refl _,?_,?_,?_,?_,fun name apart => frame name (apart spec (by simp))⟩
      · rw [made]
      · simp [reportStarts,made,answers,diskSkip?,disk,isAccepted,launchFailure?,refusal,named,
          SyncReport.recordFailure]
      · simp only [made,answers,refusal,named,List.mem_singleton,forall_eq]
        exact .refused ⟨by simp [State.untrack],.of_eq rfl _⟩
      · simp [disk]
    | @launched command behaviour files idle disk named accepted built =>
      have made : commands v [spec] = [command] := by simp [commands,built,Except.toOption]
      rw [due idle]
      refine ⟨rfl,by simp,?_,?_,?_,?_,fun name apart => frame name (apart spec (by simp))⟩
      · rw [made]
      · simp [reportStarts,made,answers,diskSkip?,disk,isAccepted,launchFailure?,accepted,SyncReport.recordApplied,
          List.filter_cons]
      · simp only [made,answers,accepted,named,List.mem_singleton,forall_eq]
        exact .accepted (Nat.le_refl _) (by simp) List.getElem?_concat_length (sameExcept_append rfl _ fun _ => rfl)
      · simp [disk]

theorem Started.append {first second : List VmSpec} {report : SyncReport} {middle result : SyncReport × State}
    (one : Started v first report s middle) (two : Started v second middle.1 middle.2 result)
    (apart : ∀ a ∈ first, ∀ b ∈ second, a.name ≠ b.name) : Started v (first ++ second) report s result := by
  have launches : result.2.launches = s.launches ++ commands v (first ++ second) := by
    rw [two.launches,one.launches,commands_append,List.append_assoc]
  have later (spec) (member : spec ∈ first) : Alike spec.name middle.2 result.2 :=
    two.others spec.name fun other inside => Ne.symm (apart spec member other inside)
  have earlier (spec) (member : spec ∈ second) : Alike spec.name s middle.2 :=
    one.others spec.name fun other inside => apart other inside spec member
  refine ⟨two.now.trans one.now,Nat.le_trans one.size two.size,launches,?_,?_,?_,?_⟩
  · rw [two.report,one.report,one.launches]
    simp [reportStarts,commands_append,answers_append,Nat.add_assoc]
  · intro answer member
    rw [commands_append,answers_append,List.mem_append] at member
    rcases member with before | behind
    · obtain ⟨spec,inside,_,named⟩ := mem_commands (mem_answers before)
      exact (one.launched answer before).after (named ▸ later spec inside) two.now
    · obtain ⟨spec,inside,_,named⟩ := mem_commands (mem_answers behind)
      rw [← one.launches] at behind
      exact (two.launched answer behind).before (named ▸ earlier spec inside) one.size
  · intro spec member bare
    rcases List.mem_append.mp member with before | behind
    · exact (one.diskless spec before bare).after (later spec before)
    · exact (two.diskless spec behind bare).before (earlier spec behind)
  · intro name others
    rw [List.forall_mem_append] at others
    exact (one.others name others.1).trans (two.others name others.2)

theorem startAll_spec (owned : Owned s) {entries : List (String × VmSpec)} (named : ∀ e ∈ entries, e.1 = e.2.name)
    (distinct : (entries.map (·.1)).Nodup) (report : SyncReport) :
    Started v ((entries.map (·.2)).filter (isDue s)) report s
      (entries.foldl (fun acc e => v.startWanted e.1 e.2 acc.1 acc.2) (report,s)) := by
  induction entries generalizing s report with
  | nil => exact .nothing v report s
  | cons entry rest ih =>
    obtain ⟨name,spec⟩ := entry
    obtain ⟨(same : name = spec.name),rest_named⟩ := List.forall_mem_cons.mp named
    subst same
    obtain ⟨fresh,distinct⟩ := List.nodup_cons.mp distinct
    have one := started_startWanted (v := v) owned spec report
    have apart (other : VmSpec) (member : other ∈ rest.map (·.2)) : spec.name ≠ other.name := by
      obtain ⟨e,inside,rfl⟩ := List.mem_map.mp member
      rw [← rest_named e inside]
      exact fun same => fresh (List.mem_map.mpr ⟨e,inside,same.symm⟩)
    -- What is due among the others does not depend on this one.
    have still_due : (rest.map (·.2)).filter (isDue (v.startWanted spec.name spec report s).2) =
        (rest.map (·.2)).filter (isDue s) := by
      refine List.filter_congr fun other member => ?_
      have alike := one.others other.name fun started inside => by
        rw [List.mem_singleton.mp (List.mem_filter.mp inside).1]
        exact apart other member
      rw [isDue,isDue,State.isRunning,State.isRunning,alike.process? owned,one.now]
    have owned' : Owned (v.startWanted spec.name spec report s).2 := by
      rw [startWanted_state]
      split
      · exact owned.perform v (.start spec)
      · exact owned
    have two := ih owned' rest_named distinct (v.startWanted spec.name spec report s).1
    rw [still_due] at two
    have both := one.append two fun a member_a b member_b => by
      rw [List.mem_singleton.mp (List.mem_filter.mp member_a).1]
      exact apart b (List.mem_filter.mp member_b).1
    rw [← List.filter_append] at both
    exact both

end Starts

end Hostkeeper.Supervisor
