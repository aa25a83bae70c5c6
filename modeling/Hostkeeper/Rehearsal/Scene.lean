import Hostkeeper.Shell.Trace
import Hostkeeper.Store.Ovsdb

/-! A stage for the client program of a store. One program answers from a script: connecting asks for the
databases, every other call takes the next answer, and monitors print what they are told to. Any other program
that stands in for it is run as it is. -/
namespace Hostkeeper.Rehearsal

structure Answer where
  reply : ProgramEnd
  vanishes : Bool := false

def Answer.none : Answer := ⟨⟨some 1,[],Text.Utf8.encode "no scripted answer"⟩,false⟩

structure Script where
  databases : Answer
  answers : List Answer
  monitor : Monitor

structure Scene where
  files : FileTree
  search : List String
  client : Location
  script : Script
  /-- The calls answered so far, monitors apart, each with the arguments. -/
  calls : List (List String)

namespace Scene

def answer (args : List String) (s : Scene) : Answer × Script :=
  if args.head? = some "list-dbs" then (s.script.databases,s.script)
  else (s.script.answers.head?.getD .none,{s.script with answers := s.script.answers.tail})

/-- Finds a program: the one that answers from the script, or else the run of another one. -/
def find (bin : String) (args : List String) (s : Scene) : Except OsError (Option Shell.Trace) :=
  s.files.program s.search bin fun location path bytes =>
    if location = s.client then .ok none else (Shell.load s.files s.search args location path bytes).map some

def call (bin : String) (args : List String) (s : Scene) : Except OsError ProgramEnd × Scene :=
  match s.find bin args with
  | .error e => (.error e,s)
  | .ok (some trace) => (.ok trace.programEnd,s)
  | .ok none =>
    let (answer,script) := s.answer args
    (.ok answer.reply,
      {s with
        script
        files := if answer.vanishes then s.files.remove s.client.path else s.files
        calls := s.calls ++ ["ovsdb-client" :: args]})

def monitor (bin : String) (args : List String) (s : Scene) : Except OsError Monitor × Scene :=
  match s.find bin args with
  | .error e => (.error e,s)
  | .ok none => (.ok s.script.monitor,s)
  | .ok (some trace) => (.ok ⟨trace.programEnd.stdout,trace.finish.isSome⟩,s)

def program (bin : String) : Ovsdb.Program Scene where
  fileExists path s := s.files.contains path
  call := call bin
  monitor := monitor bin

end Scene

end Hostkeeper.Rehearsal
