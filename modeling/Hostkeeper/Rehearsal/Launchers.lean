import Hostkeeper.Vm.Supervisor

/-! Launchers of processes that are not there: each one gives its processes a behaviour of its own. -/
namespace Hostkeeper.Rehearsal

/-- The process id of the next process: the first one is 10001. -/
def nextPid (history : List LaunchCommand) : Nat := 10001 + history.length

def obedient : Launcher := fun history c =>
  .ok {pid := some (nextPid history), output := [(0,"booting " ++ c.name)]}

def stubborn : Launcher := fun history c =>
  .ok {pid := some (nextPid history), output := [(0,"booting " ++ c.name)], onTerminate := .ignored}

def silent : Launcher := fun history _ => .ok {pid := some (nextPid history)}

def missing : Launcher := fun _ c => .error (.other (c.program ++ ": not found"))

structure Faults where
  pid : Option Nat := none
  terminate : Bool := false
  kill : Bool := false
  ignoresTerminate : Bool := false
  waits : Nat := 0

def faulty (f : Faults) : Launcher := fun _ _ =>
  .ok {pid := f.pid
       onTerminate := if f.terminate then .fails else if f.ignoresTerminate then .ignored else .exits 0
       killFails := f.kill
       failingWaits := f.waits}

end Hostkeeper.Rehearsal
