import Hostkeeper.Agent.Session
import Hostkeeper.Rehearsal.Rules
import Hostkeeper.Rehearsal.Scene

/-! An agent in rehearsal: its store answers from a script, its tools follow rules, and it is told to stop once it
has made so many calls. It then finishes its pass. -/
namespace Hostkeeper.Rehearsal

structure AtWork (δ : Type) where
  interval : Nat
  loop : ReconcileLoop (Ovsdb.Session Scene) δ
  calls : List (List String)

/-- One pass; `made` gives the calls of the domain so far. -/
def AtWork.pass {δ : Type} (domain : Domain (Ovsdb.Session Scene) δ) (made : δ → List (List String))
    (w : AtWork δ) : AtWork δ :=
  let loop := (w.loop.tick domain).2
  let asked := loop.store.world.calls.drop w.loop.store.world.calls.length
  let done := (made loop.state).drop (made w.loop.state).length
  {w with loop := {loop with store := (loop.store.wait w.interval).2}, calls := w.calls ++ asked ++ done}

/-- Passes until so many calls were made; `more` bounds the passes. -/
def AtWork.passes {δ : Type} (domain : Domain (Ovsdb.Session Scene) δ) (made : δ → List (List String))
    (wanted : Nat) : Nat → AtWork δ → AtWork δ
  | 0, w => w
  | more + 1, w =>
    let w := w.pass domain made
    if w.calls.length ≥ wanted then w else w.passes domain made wanted more

structure AgentEnd where
  outcome : Outcome
  calls : List (List String)
  files : FileTree

def followDomain {δ : Type} (interval : Nat) (session : Ovsdb.Session Scene) (state : δ)
    (domain : Domain (Ovsdb.Session Scene) δ) (made : δ → List (List String)) (files : δ → FileTree)
    (wanted : Option Nat) : AgentEnd :=
  let start : AtWork δ := ⟨interval,.new session state,session.world.calls⟩
  let w := match wanted with
    | some n => start.passes domain made n (n + 1)
    | none => start
  ⟨{code := 0},w.calls,files w.loop.state⟩

def findProgram (files : FileTree) (search : List String) (name : String) : Except OsError Location :=
  files.program search name fun location _ _ => .ok location

def fleeting (files : FileTree) (search : List String) : Launcher := fun _ c =>
  (findProgram files search c.program).map fun _ => {pid := some 4242, lifetime := some 0}

def launchCalls (files : FileTree) (search : List String) (launches : List LaunchCommand) : List (List String) :=
  launches.filterMap fun c =>
    (findProgram files search c.program).toOption.map fun _ =>
      ((pathParts c.program).getLast?).getD c.program :: c.args

def followAgent (p : Agent.Plan) (rules : List Rule) (session : Ovsdb.Session Scene) (wanted : Option Nat) :
    AgentEnd :=
  let files := session.world.files
  let search := session.world.search
  let host := Host.new files
  let commands (h : Host) : List (List String) := h.calls.map Command.words
  match p.kind with
  | .net =>
    followDomain p.interval session ⟨{},host⟩ ((Agent.network p.config (tools rules)).domain _)
      (commands ·.host) (·.host.files) wanted
  | .storage =>
    followDomain p.interval session host ((Agent.storage (tools rules)).domain _) commands (·.files) wanted
  | .vm =>
    followDomain p.interval session (Supervisor.State.new files)
      ((Agent.supervisor p.config (fleeting files search)).domain _)
      (fun s => launchCalls files search s.launches) (·.files) wanted
  | .stat =>
    followDomain p.interval session files (Telemetry.domain fun files => Telemetry.sample files {}) (fun _ => [])
      id wanted

def runAgent (lookup : String → Option String) (args : List String) (rules : List Rule) (wanted : Option Nat)
    (scene : Scene) : AgentEnd :=
  match Agent.plan lookup args with
  | .error outcome => ⟨outcome,[],scene.files⟩
  | .ok p =>
    match Agent.connect Scene.program p scene with
    | (.error f,scene) => ⟨{code := 1, errors := f.text},scene.calls,scene.files⟩
    | (.ok session,_) => followAgent p rules session wanted

end Hostkeeper.Rehearsal
