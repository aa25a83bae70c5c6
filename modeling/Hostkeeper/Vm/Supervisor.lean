import Hostkeeper.Reconcile.Loop
import Hostkeeper.Vm.Process

/-! The supervisor of virtual machines. It tracks the processes that it started by machine name, one for each
name, starts machines that should run and stops all others. A machine whose row cannot be read is left alone. -/
namespace Hostkeeper

/-- Starts processes: how the process of a command will behave, given the commands launched before. -/
abbrev Launcher := List LaunchCommand → LaunchCommand → Except OsError Behaviour

/-- A process that the supervisor holds, by its number in the order of starts. -/
structure Tracked where
  process : Nat
  stopping : Bool
  deriving DecidableEq, Repr

inductive VmState where
  | absent
  | starting
  | running
  | stopping
  | stopped
  deriving DecidableEq, Repr

inductive StopOutcome where
  | notTracked
  | alreadyExited
  | graceful
  | forced
  deriving DecidableEq, Repr

structure Supervisor where
  launcher : Launcher
  qemuBin : String
  cgroupProcs : String
  stopTimeout : Nat

namespace Supervisor

structure State where
  tracked : KeyMap Tracked
  now : Nat
  processes : List Process
  launches : List LaunchCommand
  files : FileTree

namespace State

def new (files : FileTree) : State := ⟨.empty,0,[],[],files⟩

def process? (s : State) (name : String) : Option Process :=
  (s.tracked.get? name).bind fun t => s.processes[t.process]?

def observe (s : State) (name : String) : VmState :=
  match s.tracked.get? name, s.process? name with
  | some t, some p =>
    if p.hasExited s.now then .stopped
    else if t.stopping then .stopping
    else if (p.console s.now).lines.isEmpty then .starting
    else .running
  | _, _ => .absent

def isRunning (s : State) (name : String) : Bool := (s.process? name).any fun p => !p.hasExited s.now

def names (s : State) : List String := s.tracked.keys

def untrack (s : State) (name : String) : State := {s with tracked := s.tracked.erase name}

def newest? (s : State) (name : String) : Option Nat :=
  s.processes.reverse.zipIdx.findSome? fun (p,i) =>
    if p.name = name then some (s.processes.length - 1 - i) else none

def exit (s : State) (process time : Nat) : State :=
  {s with processes := s.processes.modify process (·.exitBy time)}

end State

def launch (v : Supervisor) (name : String) (command : LaunchCommand) (s : State) :
    Except VmError Unit × State :=
  let launched := {s with launches := s.launches ++ [command]}
  match v.launcher s.launches command with
  | .error e => (.error (.launch name e),launched)
  | .ok behaviour =>
    let files := match behaviour.pid with
      | some pid => (assignCgroup s.files v.cgroupProcs pid).2
      | none => s.files
    (.ok (),{launched with
      files
      processes := s.processes ++ [.start command.name behaviour s.now]
      tracked := s.tracked.insert name ⟨s.processes.length,false⟩})

def start (v : Supervisor) (spec : VmSpec) (s : State) : Except VmError Bool × State :=
  if s.isRunning spec.name then (.ok false,s)
  else
    let s := s.untrack spec.name
    match LaunchCommand.forVm v.qemuBin spec with
    | .error e => (.error e,s)
    | .ok command =>
      let (result,s) := v.launch spec.name command s
      (result.map fun _ => true,s)

def graceEnd (now timeout : Nat) : WaitEnd → Nat × Bool
  | .failed time => (min time (now + timeout),false)
  | .exits time => if time ≤ now + timeout then (time,true) else (now + timeout,false)
  | .never => (now + timeout,false)

def waitTime : WaitEnd → Option Nat
  | .failed time => some time
  | .exits time => some time
  | .never => none

/-- Stops a machine: a request to exit, time to do so, then a kill. With a limit, what takes longer than so
many milliseconds is given up and leaves the machine tracked; without one, only a process that nothing ends
gives no outcome. -/
def stopWithin (v : Supervisor) (limit : Option Nat) (name : String) (s : State) :
    Option StopOutcome × State :=
  match s.tracked.get? name, s.process? name with
  | some t, some p =>
    if p.hasExited s.now then (some .alreadyExited,s.untrack name)
    else
      let put (p : Process) (s : State) : State := {s with processes := s.processes.set t.process p}
      let inTime (time : Nat) : Bool := limit.all fun l => time ≤ s.now + l
      let giveUp (s : State) : Option StopOutcome × State := (none,{s with now := s.now + limit.getD 0})
      let s := {s with tracked := s.tracked.insert name {t with stopping := true}}
      let (firstWait,p) := (p.terminate s.now).wait s.now
      let (time,graceful) := graceEnd s.now v.stopTimeout firstWait
      if !inTime time then giveUp (put p s)
      else if graceful then (some .graceful,{(put p s).untrack name with now := time})
      else
        let (secondWait,p) := (p.kill time).wait time
        match (waitTime secondWait).filter inTime with
        | some time => (some .forced,{(put p s).untrack name with now := time})
        | none => giveUp (put p s)
  | _, _ => (some .notTracked,s)

def stop (v : Supervisor) (name : String) (s : State) : Option StopOutcome × State := v.stopWithin none name s

/-- The last spec of each name that is not empty. -/
def desiredSpecs (specs : List VmSpec) : KeyMap VmSpec :=
  .ofList ((specs.filter (·.name ≠ "")).map fun spec => (spec.name,spec))

/-- Whether a tracked machine is to be stopped: nobody wants it, or it is wanted stopped. A machine to keep is
left alone as long as nobody says what it should be. -/
def isUnwanted (desired : KeyMap VmSpec) (keep : List String) (name : String) : Bool :=
  match desired.get? name with
  | some spec => spec.state = some .stop
  | none => !keep.contains name

def stopAll (v : Supervisor) : List String → State → State
  | [], s => s
  | name :: rest, s => stopAll v rest (v.stop name s).2

def startWanted (v : Supervisor) (name : String) (spec : VmSpec) (report : SyncReport) (s : State) :
    SyncReport × State :=
  if spec.state ≠ some .run then (report,s)
  else
    match v.start spec s with
    | (.ok true,s) => (report.recordApplied,s)
    | (.ok false,s) => (report,s)
    | (.error (.missingDisk n),s) => (report.recordSkipped name (VmError.missingDisk n).message,s)
    | (.error e,s) => (report.recordFailure name e.message,s)

/-- Brings the tracked machines to what is wanted: all stops before all starts, each in name order. -/
def syncKeeping (v : Supervisor) (specs : List VmSpec) (keep : List String) (s : State) : SyncReport × State :=
  let desired := desiredSpecs specs
  let unwanted := s.names.filter (isUnwanted desired keep)
  let s := v.stopAll unwanted s
  desired.entries.foldl (fun acc e => v.startWanted e.1 e.2 acc.1 acc.2) ({applied := unwanted.length},s)

def sync (v : Supervisor) (snapshot : Snapshot) (s : State) : SyncReport × State :=
  let decoded := snapshot.decode (α := VmSpec)
  let (report,s) := v.syncKeeping (decoded.rows.map (·.value)) decoded.rejectedNames s
  (decoded.rejected.foldl (fun r row => r.recordSkipped row.key row.error.message) report,s)

def shutdownAll (v : Supervisor) (s : State) : State := v.stopAll s.names s

def domain (σ : Type) (v : Supervisor) : Domain σ State where
  tables := ["VirtualMachine"]
  everyTick := false
  sync snapshot s store :=
    let (report,s) := v.sync snapshot s
    (report,s,store)

end Supervisor

end Hostkeeper
