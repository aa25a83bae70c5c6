import Hostkeeper.CommandLine
import Hostkeeper.Config

/-! The agent's command line: the domain to keep, and settings that count before those of the environment. -/
namespace Hostkeeper.Agent

inductive DomainKind where
  | net
  | storage
  | vm
  | stat
  deriving DecidableEq, Repr

def DomainKind.ofName? : String → Option DomainKind
  | "net" => some .net
  | "storage" => some .storage
  | "vm" => some .vm
  | "stat" => some .stat
  | _ => none

structure Options where
  kind : DomainKind
  remote : Option String
  database : Option String
  schema : Option String
  deriving DecidableEq, Repr

namespace Options

open CommandLine

def level : Level where
  options := [{name := "remote"},{name := "db"},{name := "schema", accepts := (!·.isEmpty)}]
  places := [fun s => (DomainKind.ofName? s).isSome]
  subcommands := []
  hasVersion := true

def read (args : List String) : Except Stop Options := do
  let (found,_) ← level.scan false {} args
  let (values,places) ← level.values (fun _ => none) found
  let text? (name : String) : Option String := (values.get? name).map (·.2)
  match places.head?.bind DomainKind.ofName? with
  | some kind => return ⟨kind,text? "remote",text? "db",text? "schema"⟩
  | none => .error .misuse

/-- The settings with those of the command line in place. -/
def apply (o : Options) (c : Config) : Config :=
  {c with
    storeRemote := o.remote.getD c.storeRemote
    storeDb := o.database.getD c.storeDb
    schemaPath := o.schema.getD c.schemaPath}

end Options

end Hostkeeper.Agent
