import Hostkeeper.Agent.Filter
import Hostkeeper.Agent.Options
import Hostkeeper.Network
import Hostkeeper.Storage
import Hostkeeper.Telemetry
import Hostkeeper.Vm.Supervisor

/-! The agent's program: it reads its settings, sets up its log, connects to the store and keeps one domain until
it is told to stop. -/
namespace Hostkeeper.Agent

structure Failure where
  message : String
  causes : List String
  deriving DecidableEq, Repr

def indentLines (indent : String) (s : String) : String := Text.joinWith ("\n" ++ indent) (Text.splitOn '\n' s)

def causesText : List String → String
  | [] => ""
  | [cause] => "\n\nCaused by:\n    " ++ indentLines "    " cause
  | causes =>
    "\n\nCaused by:" ++ String.join (causes.zipIdx.map fun (cause,i) =>
      "\n" ++ String.ofList (List.replicate (5 - (toString i).length) ' ') ++ toString i ++ ": " ++
        indentLines "       " cause)

def Failure.text (f : Failure) : String := "Error: " ++ f.message ++ causesText f.causes ++ "\n"

def Failure.ofConfig (e : ConfigError) : Failure := ⟨e.message,[e.cause.message]⟩

/-- Checks the log filter: that of the environment if it is one, and else the one of the settings. -/
def checkLog (lookup : String → Option String) (c : Config) : Except Failure Unit :=
  if (lookup "RUST_LOG").any fun s => (LogFilter.check s).isOk then .ok ()
  else (LogFilter.check c.logLevel).mapError fun e => ⟨"invalid log level: " ++ c.logLevel,e.causes⟩

structure Plan where
  kind : DomainKind
  config : Config

def prepare (lookup : String → Option String) (o : Options) : Except Failure Plan := do
  let config ← (Config.ofLookup lookup).mapError .ofConfig
  let config := o.apply config
  checkLog lookup config
  return ⟨o.kind,config⟩

def DomainKind.tables : DomainKind → List String
  | .net => Network.tables
  | .storage => Storage.tables
  | .vm => ["VirtualMachine"]
  | .stat => [Telemetry.table]

def DomainKind.interval : DomainKind → Nat
  | .stat => 1000
  | _ => 2000

def Plan.interval (p : Plan) : Nat := p.config.pollInterval.getD p.kind.interval

def connect {ω : Type} (program : String → Ovsdb.Program ω) (p : Plan) (world : ω) :
    Except Failure (Ovsdb.Session ω) × ω :=
  let config := p.config.store p.kind.tables
  let (result,world) := Ovsdb.Session.connect (program config.clientBin) config world
  (result.mapError fun e => ⟨"failed to connect to store at " ++ p.config.storeRemote,[e.message]⟩,world)

/-- The network domain of a host whose log takes every level. -/
def network (c : Config) (tools : Tools) : Network where
  tools := tools
  bridge := c.bridge
  system := ⟨tools,c.timezoneFile,some fun _ _ => .ok ()⟩

def storage (tools : Tools) : Storage := ⟨tools,"/dev/disk/by-path",5,1000⟩

def supervisor (c : Config) (launcher : Launcher) : Supervisor :=
  ⟨launcher,c.qemuBin,c.vmCgroupProcs,c.vmStopTimeout * 1000⟩

/-- Reads a command line up to the plan, or to the end of the agent. -/
def plan (lookup : String → Option String) (args : List String) : Except Outcome Plan :=
  match Options.read args with
  | .error .misuse => .error {code := 2}
  | .error .version => .error {code := 0, output := "edge-agent 0.1.0\n"}
  | .error (.help _) => .error {code := 0}
  | .ok options => (prepare lookup options).mapError fun f => {code := 1, errors := f.text}

end Hostkeeper.Agent
