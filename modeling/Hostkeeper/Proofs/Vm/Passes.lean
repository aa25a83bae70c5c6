import Hostkeeper.Proofs.Vm.Accounting
import Hostkeeper.Proofs.Vm.Rows

/-! A pass over a snapshot stops what has no row or a row that says so, starts what should run,
and leaves the machine of a row that cannot be read as it is. -/
namespace Hostkeeper.Supervisor

open State

variable {v : Supervisor} {s t : State} {name : String} {snapshot : Snapshot}

/-- Nothing was done to the processes of a machine: those that were there are as they were, and
those that were added got no signal. -/
structure Untouched (name : String) (s after : State) : Prop where
  named : ∀ (i : Nat) (p : Process), s.processes[i]? = some p → ∃ q, after.processes[i]? = some q ∧ q.name = p.name
  kept : ∀ (i : Nat) (p : Process), s.processes[i]? = some p → p.name = name → after.processes[i]? = some p
  fresh : ∀ (i : Nat) (q : Process), after.processes[i]? = some q → q.name = name → s.processes[i]? = none →
    q.terminated = false ∧ q.killed = false

theorem Untouched.of_eq {after : State} (same : after.processes = s.processes) : Untouched name s after :=
  ⟨fun _ p found => ⟨p,same ▸ found,rfl⟩,fun _ _ found _ => same ▸ found,
    fun _ _ found _ absent => by cases absent.symm.trans (same ▸ found)⟩

theorem Untouched.trans {after : State} (first : Untouched name s t) (second : Untouched name t after) :
    Untouched name s after := by
  refine ⟨fun i p found => ?_,fun i p found named => ?_,fun i q found named absent => ?_⟩
  · obtain ⟨q,present,same⟩ := first.named i p found
    obtain ⟨r,last,same'⟩ := second.named i q present
    exact ⟨r,last,same'.trans same⟩
  · exact second.kept i p (first.kept i p found named) named
  · cases present : t.processes[i]? with
    | none => exact second.fresh i q found named present
    | some p =>
      obtain ⟨q',last,same⟩ := second.named i p present
      cases found.symm.trans last
      have named' : p.name = name := same.symm.trans named
      cases found.symm.trans (second.kept i p present named')
      exact first.fresh i q present named absent

section Frames

theorem untouched_start (v : Supervisor) (spec : VmSpec) (s : State) (name : String) :
    Untouched name s (v.start spec s).2 := by
  have outcome := starts v spec s
  generalize v.start spec s = result at outcome ⊢
  cases outcome with
  | alive => exact .of_eq rfl
  | diskless => exact .of_eq rfl
  | refused => exact .of_eq rfl
  | launched =>
    have old {i : Nat} {p : Process} (found : s.processes[i]? = some p) (added : Process) :
        (s.processes ++ [added])[i]? = some p := by
      rw [List.getElem?_append_left (List.getElem?_eq_some_iff.mp found).1,found]
    refine ⟨fun i p found => ⟨p,old found _,rfl⟩,fun i p found _ => old found _,fun i q found _ absent => ?_⟩
    rw [List.getElem?_append_right (List.getElem?_eq_none_iff.mp absent)] at found
    cases List.mem_singleton.mp (List.mem_of_getElem? found)
    exact ⟨rfl,rfl⟩

private theorem untouched_set (owned : Owned s) {other : String} (apart : other ≠ name) {u : Tracked}
    {p q : Process} (tracked : s.tracked.get? other = some u) (found : s.processes[u.process]? = some p)
    (kind : p.SameKind q) {after : State} (processes : after.processes = s.processes.set u.process q) :
    Untouched name s after := by
  have inside : u.process < s.processes.length := (List.getElem?_eq_some_iff.mp found).1
  have elsewhere : p.name ≠ name := by
    obtain ⟨p',found',named⟩ := owned other u tracked
    cases found.symm.trans found'
    exact named ▸ apart
  refine ⟨fun i r present => ?_,fun i r present named => ?_,fun i r present _ absent => ?_⟩
  · rw [processes]
    by_cases same : u.process = i
    · subst same
      cases found.symm.trans present
      exact ⟨q,List.getElem?_set_self inside,kind.1⟩
    · exact ⟨r,by rw [List.getElem?_set_ne same,present],rfl⟩
  · have different : u.process ≠ i := by
      rintro rfl
      cases found.symm.trans present
      exact elsewhere named
    rw [processes,List.getElem?_set_ne different,present]
  · rw [processes] at present
    have beyond : (s.processes.set u.process q).length ≤ i := by
      rw [List.length_set]
      exact List.getElem?_eq_none_iff.mp absent
    rw [List.getElem?_eq_none beyond] at present
    cases present

theorem untouched_stop (owned : Owned s) {other : String} (apart : other ≠ name) :
    Untouched name s (v.stop other s).2 := by
  have outcome := stops v other s
  generalize v.stop other s = result at outcome ⊢
  cases outcome with
  | untracked => exact .of_eq rfl
  | gone => exact .of_eq rfl
  | ended tracked found _ _ kind => exact untouched_set owned apart tracked found kind rfl
  | stuck tracked found _ kind => exact untouched_set owned apart tracked found kind rfl

theorem untouched_performAll (owned : Owned s) {actions : List Action} (harmless : .stop name ∉ actions) :
    Untouched name s (performAll v actions s) := by
  induction actions generalizing s with
  | nil => exact .of_eq rfl
  | cons action rest ih =>
    rw [List.mem_cons,not_or] at harmless
    obtain ⟨head,tail⟩ := harmless
    refine Untouched.trans ?_ (ih (owned.perform v action) tail)
    cases action with
    | start spec => exact untouched_start v spec s name
    | stop other => exact untouched_stop owned fun same => head (by rw [same])

end Frames

section Stopping

/-- Every stop among the actions comes to an end. -/
def Ends (v : Supervisor) : List Action → State → Prop
  | [], _ => True
  | action :: rest, s =>
    (∀ name, action = .stop name → (v.stop name s).1 ≠ none) ∧ Ends v rest (action.perform v s)

/-- A stop that ends leaves the name untracked, however it went. -/
theorem untracked_stop (owned : Owned s) (ended : (v.stop name s).1 ≠ none) :
    (v.stop name s).2.tracked.get? name = none := by
  have outcome := stops v name s
  generalize v.stop name s = result at outcome ended ⊢
  cases outcome with
  | untracked absent =>
    cases tracked : s.tracked.get? name with
    | none => rfl
    | some t =>
      obtain ⟨p,found,_⟩ := owned name t tracked
      simp [process?,tracked,found] at absent
  | gone | ended => simp [State.untrack]
  | stuck => exact absurd rfl ended

theorem stays_untracked {actions : List Action} (absent : s.tracked.get? name = none)
    (unstarted : ∀ spec, .start spec ∈ actions → spec.name ≠ name) :
    (performAll v actions s).tracked.get? name = none := by
  induction actions generalizing s with
  | nil => exact absent
  | cons action rest ih =>
    refine ih ?_ fun spec member => unstarted spec (List.mem_cons_of_mem _ member)
    by_cases same : action = .stop name
    · subst same
      have outcome := stops v name s
      rw [Action.perform]
      generalize v.stop name s = result at outcome ⊢
      cases outcome with
      | untracked => exact absent
      | gone tracked | ended tracked | stuck tracked => cases absent.symm.trans tracked
    · rw [tracked_perform action]
      · exact absent
      · cases action with
        | start spec => exact unstarted spec List.mem_cons_self
        | stop other => exact fun equal => same (by rw [show other = name from equal])

theorem untracked_performAll (owned : Owned s) {actions : List Action} (ends : Ends v actions s)
    (stopped : .stop name ∈ actions) (unstarted : ∀ spec, .start spec ∈ actions → spec.name ≠ name) :
    (performAll v actions s).tracked.get? name = none := by
  induction actions generalizing s with
  | nil => cases stopped
  | cons action rest ih =>
    have later spec (member : .start spec ∈ rest) := unstarted spec (List.mem_cons_of_mem _ member)
    rcases List.mem_cons.mp stopped with rfl | inside
    -- The stop untracks the name, and nothing after it starts the machine again.
    · change (performAll v rest (v.stop name s).2).tracked.get? name = none
      exact stays_untracked (untracked_stop owned (ends.1 name rfl)) later
    · exact ih (owned.perform v action) ends.2 inside later

theorem ends_of_killable (killable : Killable v.launcher) (sound : Sound s) (actions : List Action) :
    Ends v actions s := by
  induction actions generalizing s with
  | nil => trivial
  | cons action rest ih =>
    refine ⟨?_,ih (sound_perform action killable sound)⟩
    rintro name rfl
    have outcome := stops v name s
    generalize v.stop name s = result at outcome ⊢
    cases outcome with
    | untracked | gone | ended => simp
    | stuck _ found _ _ unkillable => cases unkillable.symm.trans (sound.killable _ (List.mem_of_getElem? found))

end Stopping

section Starting

/-- No process exits in the moment of its launch, so that exits fall between passes. -/
def Lasting (launcher : Launcher) : Prop :=
  ∀ history command behaviour, launcher history command = .ok behaviour → behaviour.lifetime ≠ some 0

/-- Between two states the launcher was asked for a machine's process and refused. -/
def LaunchFailed (v : Supervisor) (s after : State) (name : String) : Prop :=
  ∃ history command error, v.launcher history command = .error error ∧ command.name = name ∧
    s.launches <+: history ∧ history ++ [command] <+: after.launches

theorem launches_perform (v : Supervisor) (action : Action) (s : State) :
    s.launches <+: (action.perform v s).launches := by
  cases action with
  | start spec =>
    have outcome := starts v spec s
    rw [Action.perform]
    generalize v.start spec s = result at outcome ⊢
    cases outcome with
    | alive | diskless => exact List.prefix_rfl
    | refused | launched => exact List.prefix_append _ _
  | stop name =>
    have outcome := stops v name s
    rw [Action.perform]
    generalize v.stop name s = result at outcome ⊢
    cases outcome <;> exact List.prefix_rfl

theorem launches_performAll (v : Supervisor) (actions : List Action) (s : State) :
    s.launches <+: (performAll v actions s).launches := by
  induction actions generalizing s with
  | nil => exact List.prefix_rfl
  | cons action rest ih => exact (launches_perform v action s).trans (ih _)

theorem LaunchFailed.widen {first last : State} (failed : LaunchFailed v s t name)
    (before : first.launches <+: s.launches) (behind : t.launches <+: last.launches) :
    LaunchFailed v first last name := by
  obtain ⟨history,command,error,refusal,named,started,ended⟩ := failed
  exact ⟨history,command,error,refusal,named,before.trans started,ended.trans behind⟩

theorem running_start (lasting : Lasting v.launcher) (spec : VmSpec) (disk : spec.disk ≠ none) (s : State) :
    (v.start spec s).2.isRunning spec.name = true ∨ LaunchFailed v s (v.start spec s).2 spec.name := by
  have outcome := starts v spec s
  generalize v.start spec s = result at outcome ⊢
  cases outcome with
  | alive running => exact .inl running
  | diskless _ bare => exact absurd bare disk
  | refused _ _ named refusal => exact .inr ⟨s.launches,_,_,refusal,named,List.prefix_rfl,List.prefix_rfl⟩
  | @launched command behaviour files _ _ _ accepted =>
    refine .inl ?_
    have lives := lasting _ _ _ accepted
    rw [isRunning,process?,KeyMap.get?_insert,if_pos rfl,Option.bind_some,List.getElem?_concat_length,
      Option.any_some,Process.hasExited,Process.start]
    cases lifetime : behaviour.lifetime with
    | none => rfl
    | some duration =>
      have positive : duration ≠ 0 := by
        rintro rfl
        exact lives lifetime
      simp only [Option.map_some,Option.any_some,Bool.not_eq_true',decide_eq_false_iff_not]
      omega

theorem stays_running (spec : VmSpec) (running : s.isRunning name = true) :
    (v.start spec s).2.isRunning name = true := by
  obtain ⟨p,held,alive⟩ : ∃ p, s.process? name = some p ∧ p.hasExited s.now = false := by
    rw [isRunning] at running
    cases found : s.process? name with
    | none => rw [found] at running; cases running
    | some p => exact ⟨p,rfl,by simpa [found] using running⟩
  obtain ⟨u,tracked,found⟩ := Option.bind_eq_some_iff.mp held
  have apart (idle : s.isRunning spec.name = false) : name ≠ spec.name := by
    rintro rfl
    cases idle.symm.trans running
  have outcome := starts v spec s
  generalize v.start spec s = result at outcome ⊢
  cases outcome with
  | alive => exact running
  | diskless idle | refused idle =>
    simp [isRunning,process?,State.untrack,apart idle,tracked,found,alive]
  | launched idle =>
    have inside : u.process < s.processes.length := (List.getElem?_eq_some_iff.mp found).1
    simp [isRunning,process?,apart idle,tracked,List.getElem?_append_left inside,found,alive]

theorem running_startAll (lasting : Lasting v.launcher) {spec : VmSpec} (disk : spec.disk ≠ none)
    {actions : List Action} (starts : ∀ action ∈ actions, ∃ spec, action = .start spec)
    (wanted : .start spec ∈ actions) :
    (performAll v actions s).isRunning spec.name = true ∨ LaunchFailed v s (performAll v actions s) spec.name := by
  have keeps (actions : List Action) (starts : ∀ action ∈ actions, ∃ spec, action = .start spec) (s : State)
      (running : s.isRunning spec.name = true) : (performAll v actions s).isRunning spec.name = true := by
    induction actions generalizing s with
    | nil => exact running
    | cons action rest ih =>
      obtain ⟨⟨other,rfl⟩,tail⟩ := List.forall_mem_cons.mp starts
      exact ih tail _ (stays_running other running)
  induction actions generalizing s with
  | nil => cases wanted
  | cons action rest ih =>
    obtain ⟨_,tail⟩ := List.forall_mem_cons.mp starts
    rcases List.mem_cons.mp wanted with rfl | inside
    · rcases running_start lasting spec disk s with running | failed
      · exact .inl (keeps rest tail _ running)
      · exact .inr (failed.widen List.prefix_rfl (launches_performAll v rest _))
    · exact (ih tail inside).imp_right fun failed => failed.widen (launches_perform v action s) List.prefix_rfl

end Starting

/-- What a pass over a snapshot may do and what it has done in the end. -/
structure Follows (v : Supervisor) (snapshot : Snapshot) (s after : State) : Prop where
  performed : after = performAll v (passActions snapshot s) s
  signals : ∀ name, .stop name ∈ passActions snapshot s → MayStop snapshot name
  untouched : ∀ name, ¬MayStop snapshot name → Untouched name s after
  unreadable : ∀ name row error, HasRow snapshot name row → decodeRow (α := VmSpec) row.fields = .error error →
    Untouched name s after ∧ after.tracked.get? name = s.tracked.get? name
  stopped : Ends v (passActions snapshot s) s → ∀ name, MayStop snapshot name → after.tracked.get? name = none
  running : Lasting v.launcher → ∀ name row, ∀ spec : VmSpec, HasRow snapshot name row →
    decodeRow row.fields = .ok spec → spec.state = some .run → spec.disk ≠ none →
      after.isRunning name = true ∨ LaunchFailed v s after name

section Pass

theorem stop_mem_iff (built : Built snapshot) :
    .stop name ∈ passActions snapshot s ↔ (s.tracked.get? name).isSome ∧ MayStop snapshot name := by
  rw [← isUnwanted_iff built,← KeyMap.mem_keys_iff]
  simp [passActions,syncActions,startsOf,desired,Supervisor.unreadable,names]

theorem start_mem_iff (built : Built snapshot) (spec : VmSpec) : .start spec ∈ passActions snapshot s ↔
    spec.state = some .run ∧ ∃ row, HasRow snapshot spec.name row ∧ decodeRow row.fields = .ok spec := by
  have listed : .start spec ∈ passActions snapshot s ↔
      ∃ key, (key,spec) ∈ (desired snapshot).entries ∧ spec.state = some .run := by
    simp [passActions,syncActions,startsOf,desired]
  rw [listed]
  constructor
  · rintro ⟨key,member,run⟩
    obtain ⟨row,has,read⟩ := (get?_desired_iff built spec).mp ((KeyMap.mem_entries_iff _ _ _).mp member)
    cases has.1.symm.trans (name?_of_decodeRow read).1
    exact ⟨run,row,has,read⟩
  · rintro ⟨run,row⟩
    exact ⟨spec.name,(KeyMap.mem_entries_iff _ _ _).mpr ((get?_desired_iff built spec).mpr row),run⟩

theorem mayStop_iff (built : Built snapshot) {row : Row} (has : HasRow snapshot name row) : MayStop snapshot name ↔
    ∃ spec : VmSpec, decodeRow row.fields = .ok spec ∧ spec.state = some .stop := by
  constructor
  · rintro (absent | ⟨other,spec,has',read,stop⟩)
    · exact absurd has (absent row)
    · cases hasRow_unique built has has'
      exact ⟨spec,read,stop⟩
  · rintro ⟨spec,read,stop⟩
    exact .inr ⟨row,spec,has,read,stop⟩

private theorem unstarted (built : Built snapshot) (mayStop : MayStop snapshot name) (spec : VmSpec)
    (member : .start spec ∈ passActions snapshot s) : spec.name ≠ name := by
  rintro rfl
  obtain ⟨run,row,has,read⟩ := (start_mem_iff built spec).mp member
  obtain ⟨other,read',stop⟩ := (mayStop_iff built has).mp mayStop
  cases read.symm.trans read'
  cases run.symm.trans stop

private theorem startAll_mem {action : Action} {desired : KeyMap VmSpec} (member : action ∈ startsOf desired) :
    ∃ spec, action = .start spec := by
  obtain ⟨entry,_,rfl⟩ := List.mem_map.mp member
  exact ⟨entry.2,rfl⟩

/-- Whatever the rows hold, a pass signals and untracks only machines that the snapshot lets it
stop, and in the end runs those that should run. Where processes die of a kill, it has an end. -/
theorem pass_follows_rows (reached : Reached v s) (built : Built snapshot) :
    Follows v snapshot s (v.sync snapshot s).2 ∧ (Killable v.launcher → Ends v (passActions snapshot s) s) := by
  have owned := owned_reached reached
  refine ⟨?_,fun killable => ends_of_killable killable (sound_reached killable reached) _⟩
  rw [sync_eq]
  have harmless (name : String) (kept : ¬MayStop snapshot name) : .stop name ∉ passActions snapshot s :=
    fun member => kept ((stop_mem_iff built).mp member).2
  refine ⟨rfl,fun name member => ((stop_mem_iff built).mp member).2,
    fun name kept => untouched_performAll owned (harmless name kept),?_,?_,?_⟩
  · intro name row error has failed
    have kept : ¬MayStop snapshot name := by
      intro mayStop
      obtain ⟨spec,read,_⟩ := (mayStop_iff built has).mp mayStop
      cases failed.symm.trans read
    refine ⟨untouched_performAll owned (harmless name kept),tracked_performAll fun action member same => ?_⟩
    cases action with
    | stop other =>
      obtain rfl : other = name := same
      exact harmless other kept member
    | start spec =>
      obtain rfl : spec.name = name := same
      obtain ⟨_,other,has',read⟩ := (start_mem_iff built spec).mp member
      cases hasRow_unique built has has'
      cases failed.symm.trans read
  · intro ends name mayStop
    cases tracked : s.tracked.get? name with
    | none => exact stays_untracked tracked (unstarted built mayStop)
    | some t =>
      have stopped : .stop name ∈ passActions snapshot s := (stop_mem_iff built).mpr ⟨by rw [tracked]; rfl,mayStop⟩
      exact untracked_performAll owned ends stopped (unstarted built mayStop)
  · -- The stops come first; from the start of this machine on nothing but starts follows.
    intro lasting name row spec has read run disk
    cases has.1.symm.trans (name?_of_decodeRow read).1
    have wanted : .start spec ∈ startsOf (desired snapshot) := by
      have member := (start_mem_iff (s := s) built spec).mpr ⟨run,row,has,read⟩
      rw [passActions,syncActions,List.mem_append] at member
      refine member.resolve_left fun stops => ?_
      obtain ⟨_,_,same⟩ := List.mem_map.mp stops
      cases same
    rw [passActions,syncActions,performAll_append]
    refine (running_startAll lasting disk (fun action => startAll_mem) wanted).imp_right fun failed => ?_
    exact failed.widen (launches_performAll v _ s) List.prefix_rfl

def guestRow (columns : List (String × Json)) : Row := ⟨"1",.ofList (("name",.text "guest") :: columns)⟩

def guestSnapshot (columns : List (String × Json)) : Snapshot :=
  (Snapshot.new 1).withTable (.ofRows "VirtualMachine" [guestRow columns])

def booted : State :=
  (stubbornly.sync (guestSnapshot [("disk_path",.text "/guest.img"),("state",.text "run")]) (.new .empty)).2

/-- Columns that ask for a stop, one of them no number as it should be. -/
def damaged : List (String × Json) := [("cpu",.text "two"),("state",.text "stop")]

theorem damaged_row_keeps_guest :
    let after := (stubbornly.sync (guestSnapshot damaged) booted).2
    booted.isRunning "guest" = true ∧ Untouched "guest" booted after ∧
      after.tracked.get? "guest" = booted.tracked.get? "guest" := by
  have reached : Reached stubbornly booted := .operation (.pass _) (.new .empty)
  have built : Built (guestSnapshot damaged) := by
    intro table found
    cases found
    exact ⟨_,_,rfl⟩
  have has : HasRow (guestSnapshot damaged) "guest" (guestRow damaged) := ⟨rfl,_,"guest",rfl,rfl⟩
  exact ⟨by decide +kernel,(pass_follows_rows reached built).1.unreadable "guest" _ _ has rfl⟩

end Pass

end Hostkeeper.Supervisor
