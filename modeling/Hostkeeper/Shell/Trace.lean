import Hostkeeper.Host.Command
import Hostkeeper.Shell.Run
import Hostkeeper.Vm.Process

/-! How whole programs go: what they write and when, when they end, and what a request to terminate does to them. -/
namespace Hostkeeper.Shell

structure Chunk where
  time : Nat
  channel : Nat
  bytes : List UInt8

/-- How a program goes. -/
structure Trace where
  chunks : List Chunk
  finish : Option (Nat × Option Nat)
  onTerminate : TerminateReaction

def usualSearch : List String :=
  ["/usr/local/sbin","/usr/local/bin","/usr/sbin","/usr/bin","/sbin","/bin"]

def programPid : Nat := 4242

def Machine.initial (files : FileTree) (search : List String) : Machine where
  files
  here := files.home
  pid := programPid
  shellPid := programPid
  nextPid := programPid + 1
  name := "sh"
  args := []
  vars := .ofList [("HOME",⟨some "/root",true,false⟩),
    ("PATH",⟨some (ofText (Text.joinWith ":" search)),true,false⟩)]
  streams := [(0,{outlet := .nothing}),(1,{outlet := .channel 1}),(2,{outlet := .channel 2})]
  descriptors := [(0,0),(1,1),(2,2)]
  nextStream := 3

namespace Trace

def ofImage (files : FileTree) (search : List String) (image : Image) : Trace :=
  let (result,m) := (Run.tool (4 * stepLimit) image).run (.initial files search)
  let chunks := (m.written.reverse.map fun w => (⟨w.time,w.channel,bytesOf w.text⟩ : Chunk)).mergeSort
    fun a b => a.time ≤ b.time
  let finish := match result with
    | .error .endless => none
    | .error (.killed ..) => some (m.time,none)
    | _ => some (m.time,some (m.status % 256))
  ⟨chunks,finish,match m.yields with
    | some delay => .exits delay
    | none => .ignored⟩

def bytesOn (t : Trace) (channel : Nat) : List UInt8 := (t.chunks.filter (·.channel = channel)).flatMap (·.bytes)

def programEnd (t : Trace) : ProgramEnd :=
  ⟨(t.finish.bind (·.2)).map Int.ofNat,t.bytesOn 1,t.bytesOn 2⟩

/-- The lines of a channel with the times when they are whole; what is no line yet is one at the end. -/
def timedLines (finish : Nat) : List UInt8 → List Chunk → List (Nat × String)
  | rest, [] => (ConsoleBuffer.segments rest).map fun s => (finish,ConsoleBuffer.line s)
  | rest, c :: chunks =>
    let segments := ConsoleBuffer.segments (rest ++ c.bytes)
    let whole := segments.filter fun s => s.getLast? = some 10
    whole.map (fun s => (c.time,ConsoleBuffer.line s)) ++
      timedLines finish (segments.filter fun s => s.getLast? ≠ some 10).flatten chunks

def behaviour (t : Trace) : Behaviour :=
  let finish := (t.finish.map (·.1)).getD (horizon + 1)
  let lines (channel : Nat) := timedLines finish [] (t.chunks.filter (·.channel = channel))
  {pid := some programPid
   output := (lines 1 ++ lines 2).mergeSort fun a b => a.1 ≤ b.1
   lifetime := t.finish.map (·.1)
   onTerminate := t.onTerminate}

end Trace

def load (files : FileTree) (search args : List String) (location : Location) (path : String) (bytes : List UInt8) :
    Except OsError Trace := do
  if args.any (·.contains '\x00') then throw (.other "nul byte found in provided data")
  return .ofImage files search (← Image.ofFile files 5 location (ofText path) (args.map ofText) bytes)

def start (files : FileTree) (program : String) (args : List String) : Except OsError Trace :=
  if (program :: args).any (·.contains '\x00') then .error (.other "nul byte found in provided data")
  else
    files.program usualSearch program fun location path bytes => do
      let image ← Image.ofFile files 5 location (ofText path) (args.map ofText) bytes
      let isItself := image.name = ofText path
      return .ofImage files usualSearch (if isItself then {image with name := ofText program} else image)

end Hostkeeper.Shell
