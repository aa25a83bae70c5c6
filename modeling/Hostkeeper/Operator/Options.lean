import Hostkeeper.CommandLine
import Hostkeeper.Config
import Hostkeeper.Operator.Setting

/-! The operator's command line: where the store is, how rows are shown, and what to do. -/
namespace Hostkeeper.Operator

inductive Format where
  | grid
  | json
  deriving DecidableEq, Repr

/-- The format of a name; a name that is unknown stands for the grid. -/
def Format.ofName (name : String) : Format := if name = "json" then .json else .grid

inductive Request where
  | set (resource : Resource) (name key value : String)
  | show (table : String)
  deriving DecidableEq, Repr

structure Options where
  remote : String
  database : String
  schema : String
  format : Format
  request : Request
  deriving DecidableEq, Repr

namespace Options

open CommandLine

def isFilled (s : String) : Bool := !s.isEmpty

def shared : List ValueOption := [
  {name := "remote", environment := some "EDGE_STORE_REMOTE"},
  {name := "db", environment := some "EDGE_STORE_DB"},
  {name := "schema", accepts := isFilled, environment := some "EDGE_SCHEMA_PATH"},
  {name := "format"}]

def anyText (_ : String) : Bool := true

def top : Level := ⟨shared,[],["set","show","help"],true⟩

def setLevel : Level := ⟨shared,[fun s => (Resource.ofLabel? s).isSome,anyText,anyText,anyText],[],false⟩

def showLevel : Level := ⟨shared,[anyText],[],false⟩

def request? (command : String) (places : List String) : Option Request :=
  match command, places with
  | "set", [resource,name,key,value] => (Resource.ofLabel? resource).map fun r => .set r name key value
  | "show", [table] => some (.show table)
  | _, _ => none

def helpOn : List String → Stop
  | [] => .help []
  | [command] => if ["set","show","help"].contains command then .help [command] else .misuse
  | _ => .misuse

def readSubcommand (lookup : String → Option String) (command : String) (args : List String) :
    Except Stop (KeyMap (Source × String) × Request) := do
  let level := if command = "set" then setLevel else showLevel
  let (found,_) ← (level.scan false {} args).mapError fun
    | .help _ => .help [command]
    | stop => stop
  let (values,places) ← level.values lookup found
  match request? command places with
  | some request => return (values,request)
  | none => .error .misuse

def read (lookup : String → Option String) (args : List String) : Except Stop Options := do
  match ← top.scan false {} args with
  | (_,none) => .error .misuse
  | (_,some ("help",rest)) => .error (helpOn rest)
  | (found,some (command,rest)) =>
    let (inner,request) ← readSubcommand lookup command rest
    let (outer,_) ← top.values lookup found
    let values := mergeLevels outer inner
    let text (name default : String) : String := ((values.get? name).map (·.2)).getD default
    let defaults : Config := {}
    return {
      remote := text "remote" defaults.storeRemote
      database := text "db" defaults.storeDb
      schema := text "schema" defaults.schemaPath
      format := Format.ofName (text "format" "table")
      request}

end Options

end Hostkeeper.Operator
