import Hostkeeper.Proofs.Vm.Launches

/-! A pass acts on each machine by itself. What becomes of a name is told from its own last spec, its own
process and the launcher's answer to its own command. -/
namespace Hostkeeper.Supervisor

open State

variable {v : Supervisor} {s t : State} {name : String}

section Specs

/-- The last spec of a name, which is not empty. -/
def lastSpec? (specs : List VmSpec) (name : String) : Option VmSpec :=
  if name = "" then none else (specs.filter (·.name = name)).getLast?

private theorem lookupEntry_specs (specs : List VmSpec) (name : String) :
    lookupEntry name (specs.map fun spec => (spec.name,spec)) = (specs.filter (·.name = name)).head? := by
  induction specs with
  | nil => rfl
  | cons spec rest ih =>
    rw [List.map_cons,lookupEntry,List.filter_cons,ih]
    by_cases same : name = spec.name
    · simp [same]
    · simp [same,Ne.symm same]

theorem get?_desiredSpecs (specs : List VmSpec) (name : String) :
    (desiredSpecs specs).get? name = lastSpec? specs name := by
  rw [desiredSpecs,KeyMap.get?_ofList,← List.map_reverse,lookupEntry_specs,← List.filter_reverse,List.filter_filter,
    lastSpec?]
  split
  next blank =>
    have unnamed : ∀ spec ∈ specs.reverse, ¬(decide (spec.name = name) && decide (spec.name ≠ "")) = true := by
      simp [blank]
    rw [List.filter_eq_nil_iff.mpr unnamed]
    rfl
  next filled =>
    have named : (fun spec : VmSpec => decide (spec.name = name) && decide (spec.name ≠ "")) =
        fun spec => decide (spec.name = name) := by
      funext spec
      by_cases same : spec.name = name <;> simp [same,filled]
    rw [named,List.filter_reverse,List.head?_reverse]

theorem name_of_lastSpec? {specs : List VmSpec} {spec : VmSpec} (last : lastSpec? specs name = some spec) :
    spec.name = name := by
  unfold lastSpec? at last
  split at last
  · cases last
  · simpa using (List.mem_filter.mp (List.mem_of_getLast? last)).2

end Specs

section Passes

/-- Whether a tracked machine has to be stopped: by its spec, or because it has none and is not to be kept. -/
def MustStop (specs : List VmSpec) (keep : List String) (name : String) : Prop :=
  match lastSpec? specs name with
  | some spec => spec.state = some .stop
  | none => name ∉ keep

def toStop (specs : List VmSpec) (keep : List String) (s : State) : List String :=
  s.names.filter (isUnwanted (desiredSpecs specs) keep)

/-- Whether the process that is tracked under a name is still alive at a time. -/
def livesAt (s : State) (now : Nat) (name : String) : Bool := (s.process? name).any fun p => !p.hasExited now

/-- The specs of the machines that have to be started at a time, in name order. -/
def toStart (specs : List VmSpec) (s : State) (now : Nat) : List VmSpec :=
  (desiredSpecs specs).values.filter fun spec => spec.state = some .run && !livesAt s now spec.name

theorem mem_toStop_iff (specs : List VmSpec) (keep : List String) (s : State) (name : String) :
    name ∈ toStop specs keep s ↔ (s.tracked.get? name).isSome ∧ MustStop specs keep name := by
  rw [toStop,List.mem_filter,State.names,KeyMap.mem_keys_iff,isUnwanted,MustStop,get?_desiredSpecs]
  refine and_congr_right fun _ => ?_
  cases lastSpec? specs name <;> simp

theorem mem_toStart_iff (specs : List VmSpec) (s : State) (now : Nat) (spec : VmSpec) :
    spec ∈ toStart specs s now ↔
      lastSpec? specs spec.name = some spec ∧ spec.state = some .run ∧ livesAt s now spec.name = false := by
  rw [toStart,List.mem_filter,KeyMap.mem_values_iff,Bool.and_eq_true,decide_eq_true_eq,Bool.not_eq_true']
  refine and_congr_left fun _ => ?_
  constructor
  · rintro ⟨name,found⟩
    rw [get?_desiredSpecs] at found
    rwa [name_of_lastSpec? found]
  · intro last
    exact ⟨spec.name,(get?_desiredSpecs specs spec.name).trans last⟩

theorem named_desiredSpecs (specs : List VmSpec) : ∀ e ∈ (desiredSpecs specs).entries, e.1 = e.2.name := by
  intro e member
  have found := (KeyMap.mem_entries_iff _ e.1 e.2).mp member
  rw [get?_desiredSpecs] at found
  exact (name_of_lastSpec? found).symm

theorem toStop_sorted (specs : List VmSpec) (keep : List String) (s : State) :
    (toStop specs keep s).Pairwise (· < ·) :=
  (List.pairwise_map.mpr s.tracked.sorted).filter _

theorem toStart_sorted (specs : List VmSpec) (s : State) (now : Nat) :
    ((toStart specs s now).map (·.name)).Pairwise (· < ·) := by
  have names : (desiredSpecs specs).values.map (·.name) = (desiredSpecs specs).keys := by
    rw [KeyMap.values,KeyMap.keys,List.map_map]
    exact List.map_congr_left fun e member => (named_desiredSpecs specs e member).symm
  have sorted : ((desiredSpecs specs).values.map (·.name)).Pairwise (· < ·) := by
    rw [names]
    exact List.pairwise_map.mpr (desiredSpecs specs).sorted
  exact List.pairwise_map.mpr ((List.pairwise_map.mp sorted).filter _)

theorem not_mem_toStop {specs : List VmSpec} {spec : VmSpec} (last : lastSpec? specs spec.name = some spec)
    (run : spec.state = some .run) (keep : List String) (s : State) : spec.name ∉ toStop specs keep s := by
  rw [mem_toStop_iff,MustStop,last]
  simp [run]

/-- It lives after the stops if its process lasts that long, so that what is due then is told from the start. -/
theorem due_eq_toStart (owned : Owned s) {specs : List VmSpec} {keep : List String}
    (kept : ∀ name, name ∉ toStop specs keep s → Alike name s t) :
    (desiredSpecs specs).values.filter (isDue t) = toStart specs s t.now := by
  refine List.filter_congr fun spec member => ?_
  by_cases run : spec.state = some .run
  · obtain ⟨name,found⟩ := (KeyMap.mem_values_iff _ _).mp member
    rw [get?_desiredSpecs] at found
    cases name_of_lastSpec? found
    rw [isDue,livesAt,State.isRunning,(kept spec.name (not_mem_toStop found run keep s)).process? owned]
  · simp [isDue,run]

/-- What a pass does, machine by machine. -/
structure ActsOnEach (v : Supervisor) (specs : List VmSpec) (keep : List String) (s : State) (report : SyncReport)
    (after : State) : Prop where
  stopsFirst : after = performAll v (startsOf (desiredSpecs specs)) (performAll v ((toStop specs keep s).map .stop) s)
  stopped : ∀ name ∈ toStop specs keep s, Stopped v name s after
  launches : after.launches = s.launches ++ commands v (toStart specs s after.now)
  launched : ∀ answer ∈ answers v s.launches (commands v (toStart specs s after.now)),
    Answered answer.1.name s after answer.2
  diskless : ∀ spec ∈ toStart specs s after.now, spec.disk = none → Dropped spec.name s after
  others : ∀ name, name ∉ toStop specs keep s → (∀ spec ∈ toStart specs s after.now, spec.name ≠ name) →
    Alike name s after
  report : report = reportStarts v s.launches (toStart specs s after.now) {applied := (toStop specs keep s).length}

theorem size_stopAll (v : Supervisor) (names : List String) (s : State) :
    (performAll v (names.map .stop) s).processes.length = s.processes.length := by
  induction names generalizing s with
  | nil => rfl
  | cons name rest ih =>
    refine (ih (v.stop name s).2).trans ?_
    have outcome := stops v name s
    generalize v.stop name s = result at outcome ⊢
    cases outcome with
    | untracked | gone => rfl
    | ended | stuck => exact List.length_set

theorem actsOnEach (sound : Sound s) (specs : List VmSpec) (keep : List String) :
    ActsOnEach v specs keep s (v.syncKeeping specs keep s).1 (v.syncKeeping specs keep s).2 := by
  have distinct : (toStop specs keep s).Nodup := s.tracked.keys_nodup.filter _
  obtain ⟨sound_mid,kept,stopped⟩ := stopAll_spec (v := v) sound distinct
  have order := now_stopAll v (toStop specs keep s) s
  have unlaunched := launches_stopAll v (toStop specs keep s) s
  have size := size_stopAll v (toStop specs keep s) s
  have stopsFirst := syncKeeping_eq v specs keep s
  rw [syncActions,performAll_append] at stopsFirst
  have started := startAll_spec (v := v) sound_mid.owned (named_desiredSpecs specs) (desiredSpecs specs).keys_nodup
    {applied := (toStop specs keep s).length}
  have result : (desiredSpecs specs).entries.foldl (fun acc e => v.startWanted e.1 e.2 acc.1 acc.2)
      ({applied := (toStop specs keep s).length},performAll v ((toStop specs keep s).map .stop) s) =
      v.syncKeeping specs keep s := by
    rw [← stopAll_eq]
    rfl
  rw [result] at started
  generalize v.syncKeeping specs keep s = r at started stopsFirst ⊢
  generalize performAll v ((toStop specs keep s).map .stop) s = mid at *
  have due := due_eq_toStart sound.owned kept
  rw [KeyMap.values,← started.now] at due
  rw [due] at started
  have untouched {spec : VmSpec} (member : spec ∈ toStart specs s r.2.now) : Alike spec.name s mid := by
    obtain ⟨last,run,_⟩ := (mem_toStart_iff specs s r.2.now spec).mp member
    exact kept spec.name (not_mem_toStop last run keep s)
  refine ⟨stopsFirst,fun name member => ?_,?_,fun answer member => ?_,fun spec member bare => ?_,
    fun name outside idle => ?_,?_⟩
  · have idle : ∀ spec ∈ toStart specs s r.2.now, spec.name ≠ name := by
      rintro spec inside rfl
      obtain ⟨last,run,_⟩ := (mem_toStart_iff specs s r.2.now spec).mp inside
      exact not_mem_toStop last run keep s member
    exact (stopped name member).after sound.owned (started.others name idle) (Nat.le_of_eq started.now.symm)
  · rw [← unlaunched]
    exact started.launches
  · rw [← unlaunched] at member
    obtain ⟨spec,inside,_,named⟩ := mem_commands (mem_answers member)
    exact (started.launched answer member).before (named ▸ untouched inside) (Nat.le_of_eq size.symm)
  · exact (started.diskless spec member bare).before (untouched member)
  · exact (kept name outside).trans (started.others name idle)
  · rw [← unlaunched]
    exact started.report

/-- A pass acts on each name by itself, whatever the specs hold: on the tracked names that must be stopped,
on those that are to run and do not, and on no other. It reports these and nothing else. -/
theorem pass_acts_on_each_name (mock : IsMock v.launcher) (reached : Reached v s) (specs : List VmSpec)
    (keep : List String) :
    let r := v.syncKeeping specs keep s
    ActsOnEach v specs keep s r.1 r.2 ∧
    (∀ name, name ∈ toStop specs keep s ↔ (s.tracked.get? name).isSome ∧ MustStop specs keep name) ∧
    (toStop specs keep s).Pairwise (· < ·) ∧
    (∀ spec, spec ∈ toStart specs s r.2.now ↔
      lastSpec? specs spec.name = some spec ∧ spec.state = some .run ∧ livesAt s r.2.now spec.name = false) ∧
    ((toStart specs s r.2.now).map (·.name)).Pairwise (· < ·) := by
  have sound := sound_reached (killable_of_isMock mock) reached
  exact ⟨actsOnEach sound specs keep,mem_toStop_iff specs keep s,toStop_sorted specs keep s,
    mem_toStart_iff specs s _,toStart_sorted specs s _⟩

def otherGuest : VmSpec := {name := "other",diskPath := some "/other.img",state := some .run}

def bareGuest : VmSpec := {name := "third",state := some .run}

/-- Two guests that were started in one pass, the second of which has crashed since. -/
def crashed : State := (Operation.perform stubbornly (.new .empty) (.sync [guest,otherGuest])).exit 1 0

/-- Specs of one machine twice, of one without a name and of one without a disk. -/
def muddled : List VmSpec := [{name := "other",state := some .stop},{state := some .run},bareGuest,otherGuest]

theorem muddled_pass_acts_on_each_name :
    let r := stubbornly.syncKeeping muddled ["guest"] crashed
    Alike "guest" crashed r.2 ∧ Dropped "third" crashed r.2 ∧
      (∃ behaviour, Answered "other" crashed r.2 (.ok behaviour)) ∧
      r.1 = {applied := 1,skipped := [⟨"third","VM third has no disk_path"⟩]} := by
  have mock : IsMock stubbornly.launcher := ⟨Rehearsal.stubborn,by simp,fun _ _ => rfl⟩
  have reached : Reached stubbornly crashed := .exit 1 0 (.operation (.sync _) (.new .empty))
  obtain ⟨acts,_⟩ := pass_acts_on_each_name mock reached muddled ["guest"]
  have stops : toStop muddled ["guest"] crashed = [] := by decide +kernel
  have starts : toStart muddled crashed (stubbornly.syncKeeping muddled ["guest"] crashed).2.now =
      [otherGuest,bareGuest] := by decide +kernel
  have disk : otherGuest.disk ≠ none := by decide +kernel
  obtain ⟨_,command,built,named⟩ := (forVm_spec "qemu" otherGuest).resolve_left fun bare => disk bare.1
  have made : commands stubbornly [otherGuest,bareGuest] = [command] := by
    have bare : LaunchCommand.forVm "qemu" bareGuest = .error (.missingDisk "third") := rfl
    simp [commands,stubbornly,built,bare,Except.toOption]
  have launched := acts.launched
  rw [starts,made] at launched
  have answered := launched _ List.mem_cons_self
  rw [named] at answered
  exact ⟨acts.others "guest" (by simp [stops]) (by simp [starts,otherGuest,bareGuest]),
    acts.diskless bareGuest (by simp [starts]) rfl,⟨_,answered⟩,by decide +kernel⟩

end Passes

end Hostkeeper.Supervisor
