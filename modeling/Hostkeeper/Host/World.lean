import Hostkeeper.Host.Command
import Hostkeeper.Host.Files

/-! The host that the domains act on: its files, its clock, and the tools that commands run. What a tool answers
may depend on every command run before it. -/
namespace Hostkeeper

structure Reply where
  output : Output
  creates : List String := []

/-- The tools of a host: the reply to a command, given the commands run before it, first one first. -/
abbrev Tools := List Command → Command → Reply

structure Host where
  files : FileTree
  now : Nat
  /-- Files that will appear, with the time when they do. -/
  arriving : List (Nat × String)
  calls : List Command
  writes : List String

namespace Host

def new (files : FileTree) : Host := ⟨files,0,[],[],[]⟩

def run (tools : Tools) (h : Host) (c : Command) : Output × Host :=
  let reply := tools h.calls c
  (reply.output,
    {h with
      calls := h.calls ++ [c]
      files := reply.creates.foldl (fun t path => t.plant path (.file [] false)) h.files})

def runChecked (tools : Tools) (h : Host) (c : Command) : Except CommandError Output × Host :=
  let (output,h) := h.run tools c
  (output.check c,h)

def write (path : String) (bytes : List UInt8) (h : Host) : Except OsError Host :=
  (h.files.write path bytes).map fun files => {h with files, writes := h.writes ++ [path]}

def settle (h : Host) : Host :=
  {h with
    files := (h.arriving.filter (·.1 ≤ h.now)).foldl (fun t a => t.plant a.2 (.file [] false)) h.files
    arriving := h.arriving.filter (¬ ·.1 ≤ h.now)}

def sleep (ms : Nat) (h : Host) : Host := {h with now := h.now + ms}.settle

def expect (h : Host) (path : String) (delay : Nat) : Host :=
  {h with arriving := h.arriving ++ [(h.now + delay,path)]}

end Host

end Hostkeeper
