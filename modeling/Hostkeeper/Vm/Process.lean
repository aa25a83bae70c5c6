import Hostkeeper.Host.Files
import Hostkeeper.Vm.Console
import Hostkeeper.Vm.Launch

/-! Hypervisor processes. When a process exits is settled in advance as a time on the host's clock: by itself, or
because of a signal; until that time it is alive. -/
namespace Hostkeeper

inductive TerminateReaction where
  | exits (delay : Nat)
  | ignored
  | fails
  deriving DecidableEq, Repr

/-- How a process will behave, times counted from its start. -/
structure Behaviour where
  pid : Option Nat
  output : List (Nat × String) := []
  lifetime : Option Nat := none
  onTerminate : TerminateReaction := .exits 0
  killFails : Bool := false
  failingWaits : Nat := 0
  failsAfter : Nat := 0
  deriving Repr

inductive ProcessCall where
  | terminate
  | kill
  | wait
  deriving DecidableEq, Repr

structure Process where
  name : String
  pid : Option Nat
  output : List (Nat × String)
  exitAt : Option Nat
  onTerminate : TerminateReaction
  killFails : Bool
  failingWaits : Nat
  failsAfter : Nat
  terminated : Bool := false
  killed : Bool := false
  /-- What was asked so far, whether or not it could be done, with the times when it was. -/
  calls : List (Nat × ProcessCall) := []
  deriving Repr

inductive WaitEnd where
  | failed (time : Nat)
  | exits (time : Nat)
  | never
  deriving DecidableEq, Repr

namespace Process

def start (name : String) (b : Behaviour) (now : Nat) : Process where
  name := name
  pid := b.pid
  output := b.output.map fun o => (now + o.1,o.2)
  exitAt := b.lifetime.map (now + ·)
  onTerminate := b.onTerminate
  killFails := b.killFails
  failingWaits := b.failingWaits
  failsAfter := b.failsAfter

def hasExited (p : Process) (now : Nat) : Bool := p.exitAt.any (· ≤ now)

def exitBy (p : Process) (time : Nat) : Process :=
  {p with exitAt := some ((p.exitAt.map (min · time)).getD time)}

def asked (p : Process) (call : ProcessCall) (now : Nat) : Process := {p with calls := p.calls ++ [(now,call)]}

def terminate (p : Process) (now : Nat) : Process :=
  match p.onTerminate with
  | .exits delay => {p.asked .terminate now with terminated := true}.exitBy (now + delay)
  | .ignored => {p.asked .terminate now with terminated := true}
  | .fails => p.asked .terminate now

def kill (p : Process) (now : Nat) : Process :=
  if p.killFails then p.asked .kill now else {p.asked .kill now with killed := true}.exitBy now

def wait (p : Process) (now : Nat) : WaitEnd × Process :=
  if p.failingWaits > 0 then
    (.failed (now + p.failsAfter),{p.asked .wait now with failingWaits := p.failingWaits - 1})
  else
    match p.exitAt with
    | some time => (.exits (max time now),p.asked .wait now)
    | none => (.never,p.asked .wait now)

def console (p : Process) (now : Nat) : ConsoleBuffer :=
  (ConsoleBuffer.new ConsoleBuffer.usual).pushAll ((p.output.filter (·.1 ≤ now)).map (·.2))

end Process

/-- Writes a process id into the file of a control group that is there; tells whether it was written. -/
def assignCgroup (files : FileTree) (path : String) (pid : Nat) : Bool × FileTree :=
  if files.contains path then
    match files.write path (Text.Utf8.encode (toString pid)) with
    | .ok files => (true,files)
    | .error _ => (false,files)
  else (false,files)

end Hostkeeper
