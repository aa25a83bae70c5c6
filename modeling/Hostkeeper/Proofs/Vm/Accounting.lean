import Hostkeeper.Proofs.Vm.Supervisor
import Hostkeeper.Rehearsal.Launchers
import Mathlib.Logic.Relation

/-! No two processes of one machine are alive at a time. What carries it through every operation:
a process that has not exited is the one tracked under its name. -/
namespace Hostkeeper.Supervisor

open State Relation

variable {v : Supervisor} {s : State} {name : String}

/-- Tracked processes have the name that they are tracked under. -/
def Owned (s : State) : Prop :=
  ∀ name t, s.tracked.get? name = some t → ∃ p, s.processes[t.process]? = some p ∧ p.name = name

/-- Tracked processes are owned, and no process that is alive is forgotten. -/
structure Accounted (s : State) : Prop where
  owned : Owned s
  tracked : ∀ (i : Nat) (p : Process), s.processes[i]? = some p → p.hasExited s.now = false →
    ∃ t, s.tracked.get? p.name = some t ∧ t.process = i

/-- Accounted for, with processes that all die of a kill. -/
structure Sound (s : State) : Prop extends Accounted s where
  killable : ∀ p ∈ s.processes, p.killFails = false

def Killable (launcher : Launcher) : Prop :=
  ∀ history command behaviour, launcher history command = .ok behaviour → behaviour.killFails = false

section Ownership

variable (owned : Owned s)
include owned

theorem Owned.untrack (name : String) : Owned (s.untrack name) := by
  intro other t tracked
  simp only [State.untrack,KeyMap.get?_erase] at tracked
  split at tracked
  · cases tracked
  · exact owned other t tracked

theorem Owned.launch (name : String) (behaviour : Behaviour) : Owned {s with
    processes := s.processes ++ [.start name behaviour s.now]
    tracked := s.tracked.insert name ⟨s.processes.length,false⟩} := by
  intro other t tracked
  simp only [KeyMap.get?_insert] at tracked
  split at tracked
  next same =>
    cases tracked
    exact ⟨_,List.getElem?_concat_length,same.symm⟩
  next =>
    obtain ⟨p,found,named⟩ := owned other t tracked
    have inside : t.process < s.processes.length := (List.getElem?_eq_some_iff.mp found).1
    exact ⟨p,by rw [List.getElem?_append_left inside,found],named⟩

theorem Owned.set {i : Nat} {p q : Process} (found : s.processes[i]? = some p) (kind : p.SameKind q) :
    Owned {s with processes := s.processes.set i q} := by
  intro other t tracked
  obtain ⟨r,present,named⟩ := owned other t tracked
  by_cases same : i = t.process
  · subst same
    cases found.symm.trans present
    have inside : t.process < s.processes.length := (List.getElem?_eq_some_iff.mp found).1
    exact ⟨q,List.getElem?_set_self inside,kind.1.trans named⟩
  · exact ⟨r,by simp only [List.getElem?_set_ne same,present],named⟩

theorem Owned.perform (v : Supervisor) (action : Action) : Owned (action.perform v s) := by
  cases action with
  | start spec =>
    have outcome := starts v spec s
    rw [Action.perform]
    generalize v.start spec s = result at outcome ⊢
    cases outcome with
    | alive => exact owned
    | diskless => exact owned.untrack spec.name
    | refused => exact owned.untrack spec.name
    | @launched _ behaviour => exact owned.launch spec.name behaviour
  | stop name =>
    have outcome := stops v name s
    rw [Action.perform]
    generalize v.stop name s = result at outcome ⊢
    cases outcome with
    | untracked => exact owned
    | gone => exact owned.untrack name
    | ended _ found _ _ kind => exact (owned.set found kind).untrack name
    | @stuck t p q tracked found _ kind =>
      intro other u held
      simp only [KeyMap.get?_insert] at held
      split at held
      next same =>
        cases held
        exact (owned.set found kind) other t (same ▸ tracked)
      next => exact (owned.set found kind) other u held

end Ownership

theorem isRunning_of_tracked {t : Tracked} {p : Process} (tracked : s.tracked.get? name = some t)
    (found : s.processes[t.process]? = some p) : s.isRunning name = !p.hasExited s.now := by
  simp [isRunning,process?,tracked,found]

theorem Accounted.exited (accounted : Accounted s) (idle : s.isRunning name = false) {i : Nat} {p : Process}
    (found : s.processes[i]? = some p) (named : p.name = name) : p.hasExited s.now = true := by
  by_contra alive
  rw [Bool.not_eq_true] at alive
  obtain ⟨t,tracked,rfl⟩ := accounted.tracked i p found alive
  rw [named] at tracked
  rw [isRunning_of_tracked tracked found,alive] at idle
  cases idle

theorem Accounted.gone (accounted : Accounted s) (idle : s.isRunning name = false) {t : Tracked}
    (tracked : s.tracked.get? name = some t) :
    ∃ p, s.processes[t.process]? = some p ∧ p.name = name ∧ p.hasExited s.now = true := by
  obtain ⟨p,found,named⟩ := accounted.owned name t tracked
  exact ⟨p,found,named,accounted.exited idle found named⟩

theorem Accounted.untrack (accounted : Accounted s)
    (exited : ∀ (i : Nat) (p : Process), s.processes[i]? = some p → p.name = name → p.hasExited s.now = true) :
    Accounted (s.untrack name) := by
  refine ⟨accounted.owned.untrack name,fun i p found alive => ?_⟩
  obtain ⟨t,tracked,same⟩ := accounted.tracked i p found alive
  have other : p.name ≠ name := by
    intro named
    rw [State.untrack,exited i p found named] at alive
    cases alive
  exact ⟨t,by simp [State.untrack,other,tracked],same⟩

theorem Accounted.launch (accounted : Accounted s) (idle : s.isRunning name = false) (behaviour : Behaviour)
    (launches : List LaunchCommand) (files : FileTree) : Accounted {s with
      launches
      files
      processes := s.processes ++ [.start name behaviour s.now]
      tracked := s.tracked.insert name ⟨s.processes.length,false⟩} := by
  refine ⟨accounted.owned.launch name behaviour,fun i p found alive => ?_⟩
  simp only [KeyMap.get?_insert]
  -- The new process stands behind all others; older ones of its name have exited.
  rcases Nat.lt_trichotomy i s.processes.length with old | rfl | beyond
  · rw [List.getElem?_append_left old] at found
    have other : p.name ≠ name := by
      intro named
      rw [accounted.exited idle found named] at alive
      cases alive
    rw [if_neg other]
    exact accounted.tracked i p found alive
  · rw [List.getElem?_concat_length] at found
    cases found
    exact ⟨_,if_pos rfl,rfl⟩
  · rw [List.getElem?_eq_none (by simpa using Nat.succ_le_of_lt beyond)] at found
    cases found

/-- The process of a stopped machine is gone when it is untracked; all others are as before. -/
theorem Accounted.ended (accounted : Accounted s) {t : Tracked} {p q : Process} {time : Nat}
    (tracked : s.tracked.get? name = some t) (found : s.processes[t.process]? = some p) (later : s.now ≤ time)
    (kind : p.SameKind q) (dead : q.hasExited time = true) :
    Accounted {s.untrack name with processes := s.processes.set t.process q,now := time} := by
  refine ⟨(accounted.owned.set found kind).untrack name,fun i r present alive => ?_⟩
  by_cases same : t.process = i
  · subst same
    have inside : t.process < s.processes.length := (List.getElem?_eq_some_iff.mp found).1
    simp only [List.getElem?_set_self inside] at present
    cases present
    cases dead.symm.trans alive
  · simp only [List.getElem?_set_ne same] at present
    have before : r.hasExited s.now = false := by
      by_contra exited
      rw [Bool.not_eq_false] at exited
      cases (Process.hasExited_mono exited later).symm.trans alive
    obtain ⟨u,held,rfl⟩ := accounted.tracked i r present before
    have other : r.name ≠ name := by
      intro named
      rw [named,tracked] at held
      cases held
      exact same rfl
    exact ⟨u,by simp [State.untrack,other,held],rfl⟩

section Steps

theorem launches_start (accounted : Accounted s) (spec : VmSpec) :
    (v.start spec s).2.launches = s.launches ∨ ∃ command, (v.start spec s).2.launches = s.launches ++ [command] ∧
      s.isRunning command.name = false ∧ ∀ p ∈ s.processes, p.name = command.name → p.hasExited s.now = true := by
  have all_exited (idle : s.isRunning spec.name = false) (p) (member : p ∈ s.processes)
      (named : p.name = spec.name) : p.hasExited s.now = true := by
    obtain ⟨i,found⟩ := List.mem_iff_getElem?.mp member
    exact accounted.exited idle found named
  have outcome := starts v spec s
  generalize v.start spec s = result at outcome ⊢
  cases outcome with
  | alive | diskless => exact .inl rfl
  | refused idle _ named | launched idle _ named =>
    exact .inr ⟨_,rfl,named ▸ idle,named ▸ all_exited idle⟩

theorem launches_stop (name : String) : (v.stop name s).2.launches = s.launches := by
  have outcome := stops v name s
  generalize v.stop name s = result at outcome ⊢
  cases outcome <;> rfl

/-- What was tracked under a name still is, or it is there and has exited. -/
def KeptOrGone (name : String) (t : Tracked) (after : State) : Prop :=
  (after.tracked.get? name).map (·.process) = some t.process ∨
    ∃ p, after.processes[t.process]? = some p ∧ p.name = name ∧ p.hasExited after.now = true

theorem gone_start (accounted : Accounted s) (spec : VmSpec) {t : Tracked}
    (tracked : s.tracked.get? spec.name = some t) : KeptOrGone spec.name t (v.start spec s).2 := by
  have outcome := starts v spec s
  generalize v.start spec s = result at outcome ⊢
  cases outcome with
  | alive => exact .inl (by rw [tracked]; rfl)
  | diskless idle | refused idle => exact .inr (accounted.gone idle tracked)
  | launched idle =>
    obtain ⟨p,found,gone⟩ := accounted.gone idle tracked
    have inside : t.process < s.processes.length := (List.getElem?_eq_some_iff.mp found).1
    exact .inr ⟨p,by rw [List.getElem?_append_left inside,found],gone⟩

theorem gone_stop (sound : Sound s) {t : Tracked} (tracked : s.tracked.get? name = some t) :
    KeptOrGone name t (v.stop name s).2 := by
  have outcome := stops v name s
  generalize v.stop name s = result at outcome ⊢
  cases outcome with
  | untracked => exact .inl (by rw [tracked]; rfl)
  | gone held found exited =>
    have idle : s.isRunning name = false := by rw [isRunning_of_tracked held found,exited]; rfl
    exact .inr (sound.gone idle tracked)
  | @ended _ p q _ _ held found _ _ kind dead =>
    cases tracked.symm.trans held
    obtain ⟨p',found',named⟩ := sound.owned name t tracked
    cases found.symm.trans found'
    have inside : t.process < s.processes.length := (List.getElem?_eq_some_iff.mp found).1
    have exited := dead (sound.killable p (List.mem_of_getElem? found))
    exact .inr ⟨q,List.getElem?_set_self inside,kind.1.trans named,exited⟩
  | stuck _ found _ _ unkillable => cases unkillable.symm.trans (sound.killable _ (List.mem_of_getElem? found))

/-- A command is launched only for a machine that is not running, all of whose processes have
exited, and a process that is no longer tracked has exited. -/
structure Careful (s after : State) : Prop where
  launches : after.launches = s.launches ∨ ∃ command, after.launches = s.launches ++ [command] ∧
    s.isRunning command.name = false ∧ ∀ p ∈ s.processes, p.name = command.name → p.hasExited s.now = true
  untracks : ∀ name t, s.tracked.get? name = some t → KeptOrGone name t after

theorem careful_perform (sound : Sound s) (action : Action) : Careful s (action.perform v s) := by
  constructor
  · cases action with
    | start spec => exact launches_start sound.toAccounted spec
    | stop name => exact .inl (launches_stop name)
  · intro name t tracked
    by_cases same : action.target = name
    · subst same
      cases action with
      | start spec => exact gone_start sound.toAccounted spec tracked
      | stop name => exact gone_stop sound tracked
    · exact .inl (by rw [tracked_perform action same,tracked]; rfl)

theorem sound_start (spec : VmSpec) (killable : Killable v.launcher) (sound : Sound s) :
    Sound (v.start spec s).2 := by
  have accounted := sound.toAccounted
  have outcome := starts v spec s
  generalize v.start spec s = result at outcome ⊢
  cases outcome with
  | alive => exact sound
  | diskless idle => exact ⟨accounted.untrack fun _ _ => accounted.exited idle,sound.killable⟩
  | refused idle =>
    have untracked := accounted.untrack fun _ _ => accounted.exited idle
    exact ⟨⟨untracked.owned,untracked.tracked⟩,sound.killable⟩
  | @launched _ behaviour files idle _ _ accepted =>
    refine ⟨accounted.launch idle behaviour _ files,fun p member => ?_⟩
    rcases List.mem_append.mp member with old | new
    · exact sound.killable p old
    · cases List.mem_singleton.mp new
      exact killable _ _ _ accepted

theorem sound_stop (name : String) (sound : Sound s) : Sound (v.stop name s).2 := by
  have accounted := sound.toAccounted
  have outcome := stops v name s
  generalize v.stop name s = result at outcome ⊢
  cases outcome with
  | untracked => exact sound
  | gone tracked found exited =>
    have idle : s.isRunning name = false := by rw [isRunning_of_tracked tracked found,exited]; rfl
    exact ⟨accounted.untrack fun _ _ => accounted.exited idle,sound.killable⟩
  | @ended t p q _ time tracked found _ later kind dead =>
    have killable := sound.killable p (List.mem_of_getElem? found)
    refine ⟨accounted.ended tracked found later kind (dead killable),fun r member => ?_⟩
    rcases List.mem_or_eq_of_mem_set member with old | rfl
    · exact sound.killable r old
    · exact kind.2.trans killable
  | stuck _ found _ _ unkillable => cases unkillable.symm.trans (sound.killable _ (List.mem_of_getElem? found))

theorem sound_perform (action : Action) (killable : Killable v.launcher) (sound : Sound s) :
    Sound (action.perform v s) := by
  cases action with
  | start spec => exact sound_start spec killable sound
  | stop name => exact sound_stop name sound

end Steps

section Operations

/-- A careful action between states that are accounted for. -/
structure SafeAction (v : Supervisor) (s after : State) : Prop where
  performed : ∃ action : Action, after = action.perform v s
  before : Accounted s
  careful : Careful s after
  accounted : Accounted after

theorem safe_actions (actions : List Action) (killable : Killable v.launcher) (sound : Sound s) :
    ReflTransGen (SafeAction v) s (performAll v actions s) ∧ Sound (performAll v actions s) := by
  induction actions generalizing s with
  | nil => exact ⟨.refl,sound⟩
  | cons action rest ih =>
    have next := sound_perform action killable sound
    obtain ⟨path,last⟩ := ih next
    exact ⟨.head ⟨⟨action,rfl⟩,sound.toAccounted,careful_perform sound action,next.toAccounted⟩ path,last⟩

theorem safe_operation (op : Operation) (killable : Killable v.launcher) (sound : Sound s) :
    ReflTransGen (SafeAction v) s (op.perform v s) ∧ Sound (op.perform v s) := by
  rw [op.perform_eq]
  exact safe_actions (op.actions s) killable sound

/-- The states of a supervisor. Processes exit by themselves at any time, which may lie ahead and
inside a wait of a later stop. -/
inductive Reached (v : Supervisor) : State → Prop
  | new (files : FileTree) : Reached v (.new files)
  | operation {s : State} (op : Operation) (before : Reached v s) : Reached v (op.perform v s)
  | exit {s : State} (process time : Nat) (before : Reached v s) : Reached v (s.exit process time)
  | later {s : State} {now} (order : s.now ≤ now) (before : Reached v s) : Reached v {s with now}
  | written {s : State} (files : FileTree) (before : Reached v s) : Reached v {s with files}

theorem getElem?_exit (s : State) (process time i : Nat) : Option.Rel
    (fun p q => p.SameKind q ∧ (p.hasExited s.now = true → q.hasExited s.now = true))
    s.processes[i]? (s.exit process time).processes[i]? := by
  rw [State.exit,List.getElem?_modify]
  cases s.processes[i]? with
  | none => exact .none
  | some p =>
    refine .some ?_
    dsimp only
    split
    · exact ⟨p.sameKind_exitBy time,Process.hasExited_exitBy_of⟩
    · exact ⟨.refl p,id⟩

theorem Owned.exit (owned : Owned s) (process time : Nat) : Owned (s.exit process time) := by
  intro name t tracked
  obtain ⟨p,found,named⟩ := owned name t tracked
  have related := getElem?_exit s process time t.process
  rw [found] at related
  cases present : (s.exit process time).processes[t.process]? with
  | none => simp [present] at related
  | some q =>
    rw [present,Option.rel_some_some] at related
    exact ⟨q,rfl,related.1.1.trans named⟩

theorem sound_exit (sound : Sound s) (process time : Nat) : Sound (s.exit process time) := by
  have kept {i : Nat} {q : Process} (found : (s.exit process time).processes[i]? = some q) :
      ∃ p, s.processes[i]? = some p ∧ p.SameKind q ∧ (p.hasExited s.now = true → q.hasExited s.now = true) := by
    have related := getElem?_exit s process time i
    rw [found] at related
    cases present : s.processes[i]? with
    | none => simp [present] at related
    | some p => exact ⟨p,rfl,by simpa [present] using related⟩
  refine ⟨⟨sound.owned.exit process time,fun i q found alive => ?_⟩,fun q member => ?_⟩
  · obtain ⟨p,present,kind,exits⟩ := kept found
    have before : p.hasExited s.now = false := by
      by_contra exited
      rw [Bool.not_eq_false] at exited
      cases (exits exited).symm.trans alive
    rw [kind.1]
    exact sound.tracked i p present before
  · obtain ⟨i,found⟩ := List.mem_iff_getElem?.mp member
    obtain ⟨p,present,kind,_⟩ := kept found
    exact kind.2.trans (sound.killable p (List.mem_of_getElem? present))

theorem sound_later {now : Nat} (sound : Sound s) (order : s.now ≤ now) : Sound {s with now} := by
  refine ⟨⟨sound.owned,fun i p found alive => sound.tracked i p found ?_⟩,sound.killable⟩
  by_contra exited
  rw [Bool.not_eq_false] at exited
  cases (Process.hasExited_mono exited order).symm.trans alive

theorem Owned.performAll (owned : Owned s) (v : Supervisor) (actions : List Action) :
    Owned (performAll v actions s) := by
  induction actions generalizing s with
  | nil => exact owned
  | cons action rest ih => exact ih (owned.perform v action)

theorem owned_reached (reached : Reached v s) : Owned s := by
  induction reached with
  | new files => simp [Owned,State.new]
  | operation op _ ih =>
    rw [op.perform_eq]
    exact ih.performAll v _
  | exit process time _ ih => exact ih.exit process time
  | later _ _ ih => exact ih
  | written _ _ ih => exact ih

theorem sound_reached (killable : Killable v.launcher) (reached : Reached v s) : Sound s := by
  induction reached with
  | new files => exact ⟨⟨by simp [Owned,State.new],by simp [State.new]⟩,by simp [State.new]⟩
  | operation op _ ih => exact (safe_operation op killable ih).2
  | exit process time _ ih => exact sound_exit ih process time
  | later order _ ih => exact sound_later ih order
  | written _ _ ih => exact ⟨⟨ih.owned,ih.tracked⟩,ih.killable⟩

/-- Launchers of processes that are not there, each process with an end of its own. -/
def IsMock (launcher : Launcher) : Prop :=
  ∃ base ∈ [Rehearsal.obedient,Rehearsal.stubborn,Rehearsal.silent,Rehearsal.missing],
    ∀ history command, (launcher history command).map (fun b => {b with lifetime := none}) = base history command

theorem killable_of_isMock {launcher : Launcher} (mock : IsMock launcher) : Killable launcher := by
  obtain ⟨base,member,same⟩ := mock
  intro history command behaviour accepted
  have launched := same history command
  rw [accepted] at launched
  simp only [List.mem_cons,List.not_mem_nil,or_false] at member
  rcases member with rfl | rfl | rfl | rfl
  · exact congrArg Behaviour.killFails (Except.ok.inj launched)
  · exact congrArg Behaviour.killFails (Except.ok.inj launched)
  · exact congrArg Behaviour.killFails (Except.ok.inj launched)
  · cases launched

/-- Processes that have not exited are tracked under their names, so one name has at most one. Every
operation is a chain of actions that launch no second process and forget none that is alive. -/
theorem one_live_process_per_name (mock : IsMock v.launcher) (reached : Reached v s) :
    Accounted s ∧
    (∀ (i j : Nat) (p q : Process), s.processes[i]? = some p → s.processes[j]? = some q → p.name = q.name →
      p.hasExited s.now = false → q.hasExited s.now = false → i = j) ∧
    ∀ op : Operation, ReflTransGen (SafeAction v) s (op.perform v s) := by
  have killable := killable_of_isMock mock
  have sound := sound_reached killable reached
  refine ⟨sound.toAccounted,?_,fun op => (safe_operation op killable sound).1⟩
  intro i j p q found other names alive awake
  obtain ⟨t,tracked,rfl⟩ := sound.tracked i p found alive
  obtain ⟨u,held,rfl⟩ := sound.tracked j q other awake
  rw [← names,tracked] at held
  cases held
  rfl

def stubbornly : Supervisor := ⟨Rehearsal.stubborn,"qemu","/cgroup.procs",1000⟩

def guest : VmSpec := {name := "guest",diskPath := some "/guest.img",state := some .run}

/-- A machine that was started, killed after its time to exit, and started again. -/
def relaunched : State :=
  let started := Operation.perform stubbornly (.new .empty) (.start guest)
  let stopped := Operation.perform stubbornly started (.stop "guest")
  Operation.perform stubbornly stopped (.start guest)

theorem relaunched_has_one_live_process :
    relaunched.processes.length = 2 ∧ relaunched.isRunning "guest" = true ∧
      ∀ (i j : Nat) (p q : Process), relaunched.processes[i]? = some p → relaunched.processes[j]? = some q →
        p.name = q.name → p.hasExited relaunched.now = false → q.hasExited relaunched.now = false → i = j := by
  have mock : IsMock stubbornly.launcher := ⟨Rehearsal.stubborn,by simp,fun _ _ => rfl⟩
  have reached : Reached stubbornly relaunched :=
    .operation (.start guest) (.operation (.stop "guest") (.operation (.start guest) (.new .empty)))
  exact ⟨by decide +kernel,by decide +kernel,(one_live_process_per_name mock reached).2.1⟩

end Operations

end Hostkeeper.Supervisor
