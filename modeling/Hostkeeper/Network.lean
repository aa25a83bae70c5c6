import Hostkeeper.Reconcile.Loop
import Hostkeeper.System

/-! The network domain: the bridge, its ports with their VLAN tags, and the MTU, link state and address of each
interface, together with the host-wide settings. Every step is a query or an idempotent change, so a row is
applied whole in every pass. -/
namespace Hostkeeper

structure Network where
  tools : Tools
  bridge : String
  system : SystemApplier

namespace Network

structure State where
  levels : LevelState
  host : Host

def tables : List String := ["System","Interface"]

def vsctl (args : List String) : Command := ⟨"ovs-vsctl",args⟩

def ip (args : List String) : Command := ⟨"ip",args⟩

def ensureBridge (n : Network) (h : Host) : Except CommandError Unit × Host :=
  let (probe,h) := h.run n.tools (vsctl ["br-exists",n.bridge])
  if probe.success then (.ok (),h)
  else
    let (result,h) := h.runChecked n.tools (vsctl ["--may-exist","add-br",n.bridge])
    (result.map fun _ => (),h)

def ensurePort (n : Network) (name : String) (h : Host) : Except CommandError Unit × Host :=
  let (owner,h) := h.run n.tools (vsctl ["port-to-br",name])
  if owner.success && owner.lines.contains n.bridge then (.ok (),h)
  else
    let (result,h) := h.runChecked n.tools (vsctl ["--may-exist","add-port",n.bridge,name])
    (result.map fun _ => (),h)

/-- The changes that an interface asks for, in order, its place on the bridge apart. -/
def settings (n : Network) (spec : InterfaceSpec) : List Command :=
  let tag := if spec.name = n.bridge then []
    else (spec.vlan.map fun vlan => vsctl ["set","port",spec.name,"tag=" ++ toString vlan.toNat]).toList
  let mtu := (spec.mtu.bind fun mtu => if mtu.toNat > 0 then
    some (ip ["link","set","dev",spec.name,"mtu",toString mtu.toNat]) else none).toList
  let state := (spec.state.map fun state => ip ["link","set","dev",spec.name,Word.text state]).toList
  let address := ((spec.ip.bind Text.trimmed?).map fun a =>
    ip ["addr","replace",a,"dev",spec.name]).toList
  tag ++ mtu ++ state ++ address

def runAll (tools : Tools) : List Command → Host → List CommandError × Host
  | [], h => ([],h)
  | c :: rest, h =>
    let (result,h) := h.runChecked tools c
    let (errors,h) := runAll tools rest h
    match result with
    | .ok _ => (errors,h)
    | .error e => (e :: errors,h)

/-- Applies one interface; every step is tried. -/
def applyInterface (n : Network) (spec : InterfaceSpec) (h : Host) : List CommandError × Host :=
  if spec.name = n.bridge then runAll n.tools (n.settings spec) h
  else
    let (port,h) := n.ensurePort spec.name h
    let (errors,h) := runAll n.tools (n.settings spec) h
    match port with
    | .ok () => (errors,h)
    | .error e => (e :: errors,h)

/-- The host-wide settings of a snapshot. A bad log level is left out, and the other settings still count. -/
def systemSettings (s : Snapshot) (report : SyncReport) : SyncReport × Option SystemSettings :=
  match (s.table? Table.system.name).bind (·.first?) with
  | none => (report,none)
  | some row =>
    match decodeRow (α := SystemSettings) row.fields with
    | .ok settings => (report,some settings)
    | .error e =>
      match decodeRow (α := SystemSettings) (row.fields.erase "logging_level") with
      | .ok settings => (report.recordSkipped "System.logging_level" e.message,some settings)
      | .error _ => (report.recordSkipped Table.system.name e.message,none)

/-- Applies rows in order; a row without failures counts as applied. -/
def applyRows (n : Network) : List (TypedRow InterfaceSpec) → SyncReport → Host → SyncReport × Host
  | [], report, h => (report,h)
  | row :: rest, report, h =>
    let (errors,h) := n.applyInterface row.value h
    let report := if errors.isEmpty then report.recordApplied
      else errors.foldl (fun r e => r.recordFailure row.key e.message) report
    applyRows n rest report h

def sync (n : Network) (s : Snapshot) (state : State) : SyncReport × State :=
  let (report,settings) := systemSettings s {}
  let (report,levels,h) := match settings with
    | some settings => n.system.apply settings report state.levels state.host
    | none => (report,state.levels,state.host)
  match s.typed InterfaceSpec with
  | [] => (report,⟨levels,h⟩)
  | rows =>
    let (bridge,h) := n.ensureBridge h
    let report := match bridge with
      | .ok () => report
      | .error e => report.recordFailure n.bridge e.message
    let (report,h) := n.applyRows rows report h
    (report,⟨levels,h⟩)

def domain (σ : Type) (n : Network) : Domain σ State where
  tables := tables
  everyTick := false
  sync s state store :=
    let (report,state) := n.sync s state
    (report,state,store)

end Network

end Hostkeeper
