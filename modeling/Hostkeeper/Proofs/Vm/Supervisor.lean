import Hostkeeper.Proofs.KeyMap
import Hostkeeper.Proofs.Text.Lines
import Hostkeeper.Proofs.Vm.Escalation

/-! All that a start and a stop of one machine can do. Everything said about the supervisor
is derived from these two case lists. -/
namespace Hostkeeper

theorem VmSpec.disk_eq_none_iff (spec : VmSpec) :
    spec.disk = none ↔ ∀ path ∈ spec.diskPath, ∀ c ∈ path.toList, Text.isBlank c = true :=
  Text.bind_trimmed?_eq_none_iff spec.diskPath

theorem VmSpec.disk_eq_some_iff (spec : VmSpec) (path : String) :
    spec.disk = some path ↔ path ≠ "" ∧ ∃ written, spec.diskPath = some written ∧ Text.trim written = path := by
  rw [disk,Option.bind_eq_some_iff]
  simp only [Text.trimmed?_eq_some_iff]
  exact ⟨fun ⟨written,set,filled,same⟩ => ⟨filled,written,set,same⟩,
    fun ⟨filled,written,set,same⟩ => ⟨written,set,filled,same⟩⟩

namespace Supervisor

open State

/-- The ways a start can go. -/
inductive Starts (v : Supervisor) (spec : VmSpec) (s : State) : Except VmError Bool × State → Prop
  | alive (running : s.isRunning spec.name = true) : Starts v spec s (.ok false,s)
  | diskless (idle : s.isRunning spec.name = false) (bare : spec.disk = none) :
      Starts v spec s (.error (.missingDisk spec.name),s.untrack spec.name)
  | refused {command error} (idle : s.isRunning spec.name = false) (disk : spec.disk ≠ none)
      (named : command.name = spec.name) (refusal : v.launcher s.launches command = .error error)
      (built : LaunchCommand.forVm v.qemuBin spec = .ok command) :
      Starts v spec s (.error (.launch spec.name error),
        {s.untrack spec.name with launches := s.launches ++ [command]})
  | launched {command behaviour files} (idle : s.isRunning spec.name = false) (disk : spec.disk ≠ none)
      (named : command.name = spec.name) (accepted : v.launcher s.launches command = .ok behaviour)
      (built : LaunchCommand.forVm v.qemuBin spec = .ok command) :
      Starts v spec s (.ok true,{s with
        launches := s.launches ++ [command]
        files
        processes := s.processes ++ [.start spec.name behaviour s.now]
        tracked := s.tracked.insert spec.name ⟨s.processes.length,false⟩})

/-- The ways a stop without a limit can go. It takes no outcome only where nothing ends the process. -/
inductive Stops (v : Supervisor) (name : String) (s : State) : Option StopOutcome × State → Prop
  | untracked (absent : s.process? name = none) : Stops v name s (some .notTracked,s)
  | gone {t p} (tracked : s.tracked.get? name = some t) (found : s.processes[t.process]? = some p)
      (exited : p.hasExited s.now = true) : Stops v name s (some .alreadyExited,s.untrack name)
  | ended {t p q outcome time} (tracked : s.tracked.get? name = some t)
      (found : s.processes[t.process]? = some p) (alive : p.hasExited s.now = false) (later : s.now ≤ time)
      (kind : p.SameKind q) (dead : p.killFails = false → q.hasExited time = true)
      (run : Escalates v.stopTimeout s.now p (some outcome) q time) :
      Stops v name s (some outcome,{s.untrack name with processes := s.processes.set t.process q,now := time})
  | stuck {t p q} (tracked : s.tracked.get? name = some t) (found : s.processes[t.process]? = some p)
      (alive : p.hasExited s.now = false) (kind : p.SameKind q) (unkillable : p.killFails = true)
      (run : Escalates v.stopTimeout s.now p none q s.now) : Stops v name s (none,{s with
        tracked := s.tracked.insert name {t with stopping := true}
        processes := s.processes.set t.process q})

theorem forVm_spec (qemuBin : String) (spec : VmSpec) :
    (spec.disk = none ∧ LaunchCommand.forVm qemuBin spec = .error (.missingDisk spec.name)) ∨
    spec.disk ≠ none ∧ ∃ command, LaunchCommand.forVm qemuBin spec = .ok command ∧ command.name = spec.name := by
  unfold LaunchCommand.forVm
  cases spec.disk with
  | none => exact .inl ⟨rfl,rfl⟩
  | some disk => exact .inr ⟨by simp,_,rfl,rfl⟩

private theorem insert_erase {α : Type} (m : KeyMap α) (key : String) (value : α) :
    (m.erase key).insert key value = m.insert key value := by
  refine KeyMap.ext_get? fun wanted => ?_
  simp only [KeyMap.get?_insert,KeyMap.get?_erase]
  split <;> rfl

private theorem erase_insert {α : Type} (m : KeyMap α) (key : String) (value : α) :
    (m.insert key value).erase key = m.erase key := by
  refine KeyMap.ext_get? fun wanted => ?_
  simp only [KeyMap.get?_insert,KeyMap.get?_erase]
  split <;> rfl

theorem starts (v : Supervisor) (spec : VmSpec) (s : State) : Starts v spec s (v.start spec s) := by
  unfold start
  split
  next running => exact .alive running
  next idle =>
    rw [Bool.not_eq_true] at idle
    rcases forVm_spec v.qemuBin spec with ⟨bare,failed⟩ | ⟨disk,command,built,named⟩
    · simp only [failed]
      exact .diskless idle bare
    · simp only [built,launch]
      have launches : (s.untrack spec.name).launches = s.launches := rfl
      rw [launches]
      cases outcome : v.launcher s.launches command with
      | error e => exact .refused idle disk named outcome built
      | ok behaviour =>
        simp only [State.untrack,insert_erase,named]
        exact .launched idle disk named outcome built

theorem waitTime_kill (p : Process) (now : Nat) :
    (∃ time, waitTime ((p.kill now).wait now).1 = some time ∧ now ≤ time ∧
      (p.killFails = false → (p.kill now).hasExited time = true)) ∨
    waitTime ((p.kill now).wait now).1 = none ∧ p.killFails = true := by
  cases ended : ((p.kill now).wait now).1 with
  | failed time =>
    have order := Process.wait_failed ended
    exact .inl ⟨time,rfl,order,fun killable => Process.hasExited_mono (Process.hasExited_kill now killable) order⟩
  | exits time =>
    obtain ⟨order,exited⟩ := Process.wait_exits ended
    exact .inl ⟨time,rfl,order,fun _ => exited⟩
  | never =>
    refine .inr ⟨rfl,?_⟩
    by_contra killable
    rw [Bool.not_eq_true] at killable
    have exited := Process.hasExited_kill now killable
    rw [Process.hasExited,Process.wait_never ended] at exited
    cases exited

theorem stops (v : Supervisor) (name : String) (s : State) : Stops v name s (v.stop name s) := by
  unfold stop stopWithin
  split
  next t p tracked found =>
    have held : s.processes[t.process]? = some p := by
      rwa [process?,tracked,Option.bind_some] at found
    split
    next exited => exact .gone tracked held exited
    next alive =>
      rw [Bool.not_eq_true] at alive
      have waited := (p.sameKind_terminate s.now).trans (Process.sameKind_wait _ s.now)
      dsimp only
      rcases graceEnd_terminate alive v.stopTimeout with ⟨exit,inTime,ended⟩ | ⟨late,ended⟩
      · rw [ended]
        simp only [Option.all_none,Bool.not_true,Bool.false_eq_true,if_false,if_true,State.untrack,erase_insert]
        refine .ended tracked held alive (Process.le_exit_terminate alive inTime.2.1) waited (fun _ => ?_)
          (.graceful inTime (p.calls_asked s.now))
        rw [Process.hasExited_wait]
        exact (Process.hasExited_iff _ _).mpr ⟨exit,inTime.2.1,Nat.le_refl exit⟩
      · rw [ended]
        simp only [Option.all_none,Bool.not_true,Bool.false_eq_true,if_false,State.untrack,erase_insert]
        have killed := (waited.trans (Process.sameKind_kill _ (givenUpAt v.stopTimeout s.now p))).trans
          (Process.sameKind_wait _ (givenUpAt v.stopTimeout s.now p))
        have asked := Process.calls_forced ((p.terminate s.now).wait s.now).2 (givenUpAt v.stopTimeout s.now p)
        rw [p.calls_asked,List.append_assoc] at asked
        rcases waitTime_kill ((p.terminate s.now).wait s.now).2 (givenUpAt v.stopTimeout s.now p) with
          ⟨last,waits,later,dead⟩ | ⟨stuck,unkillable⟩
        · simp only [waits,Option.filter_some,if_true]
          refine .ended tracked held alive (Nat.le_trans (Nat.le_add_right _ _) later) killed (fun killable => ?_)
            (.forced late later asked)
          rw [Process.hasExited_wait]
          exact dead (waited.2.trans killable)
        · simp only [stuck,Option.filter_none]
          have unkillable := waited.2.symm.trans unkillable
          exact .stuck tracked held alive killed unkillable (.stuck late unkillable asked)
  next untracked =>
    refine .untracked ?_
    rw [process?]
    cases tracked : s.tracked.get? name with
    | none => rfl
    | some t =>
      cases found : s.process? name with
      | none => rwa [process?,tracked] at found
      | some p => exact absurd found (untracked t p tracked)

section Operations

variable {v : Supervisor} {s : State} {name : String}

inductive Action where
  | start (spec : VmSpec)
  | stop (name : String)

def Action.perform (v : Supervisor) (s : State) : Action → State
  | .start spec => (v.start spec s).2
  | .stop name => (v.stop name s).2

def Action.target : Action → String
  | .start spec => spec.name
  | .stop name => name

theorem tracked_perform (action : Action) (apart : action.target ≠ name) :
    (action.perform v s).tracked.get? name = s.tracked.get? name := by
  cases action with
  | start spec =>
    have other : name ≠ spec.name := Ne.symm apart
    have outcome := starts v spec s
    rw [Action.perform]
    generalize v.start spec s = result at outcome ⊢
    cases outcome with
    | alive => rfl
    | diskless | refused | launched => simp [State.untrack,other]
  | stop stopped =>
    have other : name ≠ stopped := Ne.symm apart
    have outcome := stops v stopped s
    rw [Action.perform]
    generalize v.stop stopped s = result at outcome ⊢
    cases outcome with
    | untracked => rfl
    | gone | ended | stuck => simp [State.untrack,other]

def performAll (v : Supervisor) (actions : List Action) (s : State) : State := actions.foldl (Action.perform v) s

theorem performAll_append (v : Supervisor) (first second : List Action) (s : State) :
    performAll v (first ++ second) s = performAll v second (performAll v first s) := List.foldl_append

theorem tracked_performAll {actions : List Action} (apart : ∀ action ∈ actions, action.target ≠ name) :
    (performAll v actions s).tracked.get? name = s.tracked.get? name := by
  induction actions generalizing s with
  | nil => rfl
  | cons action rest ih =>
    obtain ⟨head,tail⟩ := List.forall_mem_cons.mp apart
    exact (ih tail).trans (tracked_perform action head)

inductive Operation where
  | start (spec : VmSpec)
  | stop (name : String)
  | sync (specs : List VmSpec)
  | syncKeeping (specs : List VmSpec) (keep : List String)
  | pass (snapshot : Snapshot)
  | shutdownAll

def Operation.perform (v : Supervisor) (s : State) : Operation → State
  | .start spec => (v.start spec s).2
  | .stop name => (v.stop name s).2
  | .sync specs => (v.syncKeeping specs [] s).2
  | .syncKeeping specs keep => (v.syncKeeping specs keep s).2
  | .pass snapshot => (v.sync snapshot s).2
  | .shutdownAll => v.shutdownAll s

def startsOf (desired : KeyMap VmSpec) : List Action :=
  (desired.entries.filter fun e => e.2.state = some .run).map fun e => .start e.2

/-- What a pass does: all stops, then all starts. -/
def syncActions (specs : List VmSpec) (keep : List String) (s : State) : List Action :=
  (s.names.filter (isUnwanted (desiredSpecs specs) keep)).map .stop ++ startsOf (desiredSpecs specs)

def passActions (snapshot : Snapshot) (s : State) : List Action :=
  let decoded := snapshot.decode (α := VmSpec)
  syncActions (decoded.rows.map (·.value)) decoded.rejectedNames s

def Operation.actions (s : State) : Operation → List Action
  | .start spec => [.start spec]
  | .stop name => [.stop name]
  | .sync specs => syncActions specs [] s
  | .syncKeeping specs keep => syncActions specs keep s
  | .pass snapshot => passActions snapshot s
  | .shutdownAll => s.names.map .stop

theorem stopAll_eq (v : Supervisor) (names : List String) (s : State) :
    v.stopAll names s = performAll v (names.map .stop) s := by
  induction names generalizing s with
  | nil => rfl
  | cons name rest ih => exact ih (v.stop name s).2

theorem startWanted_state (v : Supervisor) (name : String) (spec : VmSpec) (report : SyncReport) (s : State) :
    (v.startWanted name spec report s).2 = if spec.state = some .run then (v.start spec s).2 else s := by
  unfold startWanted
  split
  next => rfl
  next run =>
    rw [if_pos (not_not.mp run)]
    split <;> next started => rw [started]

private theorem startAll_eq (v : Supervisor) (entries : List (String × VmSpec)) (report : SyncReport) (s : State) :
    (entries.foldl (fun acc e => v.startWanted e.1 e.2 acc.1 acc.2) (report,s)).2 =
      performAll v ((entries.filter fun e => e.2.state = some .run).map fun e => .start e.2) s := by
  induction entries generalizing report s with
  | nil => rfl
  | cons entry rest ih =>
    simp only [List.foldl_cons,ih,startWanted_state,List.filter_cons]
    by_cases run : entry.2.state = some .run <;> simp [run,performAll,Action.perform]

theorem syncKeeping_eq (v : Supervisor) (specs : List VmSpec) (keep : List String) (s : State) :
    (v.syncKeeping specs keep s).2 = performAll v (syncActions specs keep s) s := by
  rw [syncActions,performAll_append,← stopAll_eq]
  exact startAll_eq v _ _ _

theorem sync_eq (v : Supervisor) (snapshot : Snapshot) (s : State) :
    (v.sync snapshot s).2 = performAll v (passActions snapshot s) s := syncKeeping_eq v _ _ s

theorem Operation.perform_eq (v : Supervisor) (op : Operation) (s : State) :
    op.perform v s = performAll v (op.actions s) s := by
  cases op with
  | start spec => rfl
  | stop name => rfl
  | sync specs => exact syncKeeping_eq v specs [] s
  | syncKeeping specs keep => exact syncKeeping_eq v specs keep s
  | pass snapshot => exact sync_eq v snapshot s
  | shutdownAll => exact stopAll_eq v s.names s

end Operations

end Supervisor

end Hostkeeper
