import Hostkeeper.Shell.Fields
import Hostkeeper.Shell.Reader
import Hostkeeper.Shell.Sum
import Hostkeeper.Shell.Tools

/-! The state of a running shell, and the actions on it that run no command: descriptors and what is written to
them, variables, complaints. A shell has a session of its own, and surroundings that it shares with the
processes that it starts. An action that stops keeps what it has done to the state. -/
namespace Hostkeeper.Shell

inductive Outlet where
  | channel (number : Nat)
  | kept
  | file (location : Location) (appends : Bool)
  | nothing
  | closed
  deriving DecidableEq

/-- An open file, which several descriptors may lead to. -/
structure Stream where
  outlet : Outlet := .closed
  unread : List Char := []
  place : Nat := 0
  kept : List String := []

/-- What was written to a channel of the program at a time; `job` is the command in the background that did it,
if any. -/
structure Write where
  time : Nat
  channel : Nat
  job : Option Nat
  text : String

structure Job where
  pid : Nat
  finish : Option Nat
  code : Nat
  signal : Option Nat

structure Variable where
  value : Option String
  exported : Bool := false
  readOnly : Bool := false

structure Session where
  pid : Nat
  shellPid : Nat
  name : String
  args : List String
  vars : KeyMap Variable
  functions : KeyMap Command := .empty
  aliases : KeyMap String := .empty
  known : List String := []
  options : List Char := []
  /-- What signals set off, by their numbers; the number 0 stands for the end of the shell. An empty text
  stands for nothing at all. -/
  traps : List (Nat × String) := []
  status : Nat := 0
  outputStatus : Nat := 0
  descriptors : List (Nat × Nat)
  here : Location
  line : Nat := 0
  command : Option String := none
  /-- For each function under way, the variables to restore at its end. -/
  frames : List (List (String × Option Variable)) := []
  calls : Nat := 0
  loops : Nat := 0
  /-- The processes that this one runs for, with the traps they had when they started it. -/
  ancestors : List (Nat × List (Nat × String)) := []
  lastJob : Option Nat := none
  optionPlace : Option Nat := none
  mask : Nat := 18

structure Surroundings where
  files : FileTree
  streams : List (Nat × Stream)
  nextStream : Nat
  time : Nat := 0
  written : List Write := []
  job : Option Nat := none
  jobs : List Job := []
  nextPid : Nat
  pending : List (Nat × Nat) := []
  bodies : List (Nat × Word) := []
  nextBody : Nat := 0
  steps : Nat := 0
  depth : Nat := 0
  longest : Nat := 0
  /-- How long after a request to terminate the whole program ends; none if it does not. -/
  yields : Option Nat := some 0

structure Machine extends Session, Surroundings

inductive Stop where
  | exits
  | fault
  | breaks (loops : Nat)
  | continues (loops : Nat)
  | returns
  /-- A signal ends a process. -/
  | killed (pid signal : Nat)
  | endless
  deriving DecidableEq

abbrev Action := ExceptT Stop (StateM Machine)

def horizon : Nat := 120000

def stepLimit : Nat := 300000

def callLimit : Nat := 1000

def scriptLimit : Nat := 300

def observe {α : Type} (action : Action α) : Action (Except Stop α) := fun m =>
  let (result,m) := action.run m
  (.ok result,m)

def resume {α : Type} : Except Stop α → Action α
  | .ok a => pure a
  | .error stop => throw stop

namespace Machine

def tree (m : Machine) : FileTree := {m.files with home := m.here}

def has (m : Machine) (option : Char) : Bool := m.options.contains option

/-! ## Streams -/

def stream? (m : Machine) (descriptor : Nat) : Option (Nat × Stream) := do
  let id ← m.descriptors.lookup descriptor
  return (id,← m.streams.lookup id)

def putStream (m : Machine) (id : Nat) (s : Stream) : Machine :=
  {m with streams := m.streams.map fun e => if e.1 = id then (id,s) else e}

def connect (m : Machine) (descriptor : Nat) (stream : Option Nat) : Machine :=
  let rest := m.descriptors.filter (·.1 ≠ descriptor)
  {m with descriptors := match stream with
      | some id => (descriptor,id) :: rest
      | none => rest}

def openStream (m : Machine) (descriptor : Nat) (s : Stream) : Machine :=
  {m with streams := (m.nextStream,s) :: m.streams, nextStream := m.nextStream + 1}.connect descriptor
    (some m.nextStream)

/-- Lets given descriptors lead where they led before, and closes what was opened since. -/
def restore (m before : Machine) (descriptors : List Nat) : Machine :=
  let m := descriptors.foldl (fun m d => m.connect d (before.descriptors.lookup d)) m
  {m with streams := m.streams.filter fun e => e.1 < before.nextStream || m.descriptors.any (·.2 = e.1)}

def overwrite (old : List UInt8) (place : Nat) (new : List UInt8) : List UInt8 :=
  old.take place ++ List.replicate (place - old.length) 0 ++ new ++ old.drop (place + new.length)

def write? (m : Machine) (descriptor : Nat) (text : String) : Option Machine :=
  if text.isEmpty then some m
  else
    match m.stream? descriptor with
    | none => none
    | some (id,s) =>
      match s.outlet with
      | .channel n => some {m with written := ⟨m.time,n,m.job,text⟩ :: m.written}
      | .kept => some (m.putStream id {s with kept := text :: s.kept})
      | .file location appends =>
        let (old,executable) := match m.files.node? location with
          | some (.file bytes executable) => (bytes,executable)
          | _ => ([],false)
        let new := bytesOf text
        let place := if appends then old.length else s.place
        some ({m with files := m.files.put location (.file (overwrite old place new) executable)}.putStream id
          {s with place := place + new.length})
      | .nothing => some m
      | .closed => none

def unread (m : Machine) (descriptor : Nat) : List Char := ((m.stream? descriptor).map (·.2.unread)).getD []

def setUnread (m : Machine) (descriptor : Nat) (rest : List Char) : Machine :=
  match m.stream? descriptor with
  | some (id,s) => m.putStream id {s with unread := rest}
  | none => m

/-! ## Variables -/

def value? (m : Machine) (name : String) : Option String := (m.vars.get? name).bind (·.value)

def separators (m : Machine) : String := (m.value? "IFS").getD " \t\n"

def joint (m : Machine) : String :=
  match m.value? "IFS" with
  | none => " "
  | some s => String.ofList (s.toList.take 1)

def optionNames : List (Option Char × String) :=
  [(some 'e',"errexit"),(some 'f',"noglob"),(some 'I',"ignoreeof"),(some 'i',"interactive"),
    (some 'm',"monitor"),(some 'n',"noexec"),(some 's',"stdin"),(some 'x',"xtrace"),(some 'v',"verbose"),
    (some 'V',"vi"),(some 'E',"emacs"),(some 'C',"noclobber"),(some 'a',"allexport"),(some 'b',"notify"),
    (some 'u',"nounset"),(some 'p',"privileged"),(none,"nolog"),(none,"debug")]

def param? (m : Machine) (name : String) : Option String :=
  match name with
  | "#" => some (toString m.args.length)
  | "?" => some (toString m.status)
  | "$" => some (toString m.shellPid)
  | "!" => m.lastJob.map toString
  | "-" => some (String.ofList ((optionNames.filterMap (·.1)).reverse.filter m.has))
  | "0" => some m.name
  | _ =>
    if name.toList.all Char.isDigit then
      match digitsValue 10 name.toList with
      | 0 => some m.name
      | n + 1 => m.args[n]?
    else m.value? name

end Machine

/-! ## Actions -/

def put (descriptor : Nat) (text : String) : Action Bool := do
  match (← get).write? descriptor text with
  | some m =>
    set m
    return true
  | none => return false

def setStatus (n : Nat) : Action Unit := modify fun m => {m with status := n}

def complaintOpening : Action String := do
  let m ← get
  return m.name ++ ": " ++ toString m.line ++ ": " ++ (m.command.map (· ++ ": ")).getD ""

def complain (text : String) : Action Unit := do
  let _ ← put 2 ((← complaintOpening) ++ text ++ "\n")

def giveUp {α : Type} (text : String) : Action α := do
  complain text
  setStatus 2
  throw .fault

def tick : Action Unit := do
  let m ← get
  if m.steps > stepLimit || m.time > horizon then throw .endless
  set {m with steps := m.steps + 1}

def pass (ms : Nat) : Action Unit := do
  modify fun m =>
    {m with time := m.time + ms, longest := if m.job.isNone then max m.longest ms else m.longest}
  if (← get).time > horizon then throw .endless

def changeVariable (name : String) (change : Variable → Variable) : Action Unit := do
  let m ← get
  let old := (m.vars.get? name).getD ⟨none,false,false⟩
  if old.readOnly then giveUp (name ++ ": is read only")
  let new := change old
  set {m with
    vars := m.vars.insert name (if m.has 'a' then {new with exported := true} else new)
    optionPlace := if name = "OPTIND" then none else m.optionPlace}

def setVariable (name value : String) : Action Unit := changeVariable name fun v => {v with value := some value}

def keepVariable (name : String) : Action Unit := modify fun m =>
  match m.frames with
  | frame :: frames =>
    if frame.any (·.1 = name) then m else {m with frames := ((name,m.vars.get? name) :: frame) :: frames}
  | [] => m

def openFrame : Action Unit := modify fun m => {m with frames := [] :: m.frames}

def closeFrame : Action Unit := modify fun m =>
  match m.frames with
  | frame :: frames =>
    {m with
      frames
      vars := frame.foldl (fun vs e => match e.2 with
        | some v => vs.insert e.1 v
        | none => vs.erase e.1) m.vars}
  | [] => m

/-! ## Redirections -/

structure Target where
  descriptor : Nat
  kind : RedirectKind
  text : String

def openFailure (missing : String) : OsError → String
  | .notFound | .notDirectory => missing
  | e => e.reason

def readStream (path : String) : Action Stream := do
  match (← get).tree.look (toText path) with
  | .ok (_,.file bytes _) => return {unread := (octets bytes).toList}
  | .ok _ => return {}
  | .error e => giveUp ("cannot open " ++ path ++ ": " ++ openFailure "No such file" e)

def writeStream (path : String) (appends forced keepsOld : Bool) : Action Stream := do
  let m ← get
  let refuse {α : Type} (reason : String) : Action α := giveUp ("cannot create " ++ path ++ ": " ++ reason)
  match m.tree.goal (!·) (toText path) with
  | .error e => refuse (openFailure "Directory nonexistent" e)
  | .ok (.dir _) => refuse "Is a directory"
  | .ok (.entry parent name slash) =>
    if slash then refuse "Is a directory"
    let location := parent ++ [name]
    match m.files.node? location with
    | some .dir => refuse "Is a directory"
    | some (.device full) => return {outlet := if full then .closed else .nothing}
    | some (.file bytes executable) =>
      if m.has 'C' && !forced && !appends && !keepsOld then refuse "File exists"
      if !appends && !keepsOld then
        set {m with files := m.files.put location (.file [] executable)}
      return {outlet := .file location appends, unread := if keepsOld then (octets bytes).toList else []}
    | _ =>
      set {m with files := m.files.put location (.file [] false)}
      return {outlet := .file location appends}

def deviceDescriptor? (path : String) : Option Nat :=
  match path with
  | "/dev/stdin" => some 0
  | "/dev/stdout" => some 1
  | "/dev/stderr" => some 2
  | _ => if Text.startsWith path "/dev/fd/" then (String.ofList (path.toList.drop 8)).toNat? else none

def copyDescriptor (descriptor source : Nat) : Action Unit := do
  let m ← get
  match m.descriptors.lookup source with
  | some id => set (m.connect descriptor (some id))
  | none => giveUp (toString source ++ ": Bad file descriptor")

def redirect (t : Target) : Action Unit := do
  let opened (s : Stream) : Action Unit := modify fun m => m.openStream t.descriptor s
  match t.kind with
  | .here _ => opened {unread := t.text.toList}
  | .copy _ =>
    if t.text = "-" then modify fun m => m.connect t.descriptor none
    else copyDescriptor t.descriptor (digitsValue 10 t.text.toList)
  | kind =>
    match deviceDescriptor? t.text with
    | some source => copyDescriptor t.descriptor source
    | none =>
      opened (← match kind with
        | .read => readStream t.text
        | .readWrite => writeStream t.text false true true
        | .append => writeStream t.text true true false
        | .write forced => writeStream t.text false forced false
        | _ => pure {})

end Hostkeeper.Shell
