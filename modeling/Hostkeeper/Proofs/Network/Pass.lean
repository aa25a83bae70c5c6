import Hostkeeper.Proofs.Network.Steps
import Hostkeeper.Proofs.System.Settings
import Hostkeeper.Proofs.Store.Listing

/-! What a pass of the network domain runs and reports, for tools that may answer anything. -/
namespace Hostkeeper

namespace Network

section Rows

variable {s : Snapshot} {table : TableSnapshot}

def specs (s : Snapshot) : List InterfaceSpec := (s.typed InterfaceSpec).map (·.value)

/-- The table of interfaces is made by adding rows, whatever they hold. -/
def Built (s : Snapshot) : Prop :=
  ∀ table, s.table? "Interface" = some table → ∃ name rows, table = .ofRows name rows

theorem of_decodeEntry {entry : String × Row} {row : TypedRow InterfaceSpec}
    (decoded : TableSnapshot.decodeEntry entry = .ok row) :
    decodeRow entry.2.fields = .ok row.value ∧ row.key = row.value.name := by
  cases read : decodeRow (α := InterfaceSpec) entry.2.fields with
  | ok value =>
    unfold TableSnapshot.decodeEntry at decoded
    rw [read] at decoded
    cases decoded
    exact ⟨rfl,rfl⟩
  | error e =>
    rw [TableSnapshot.decodeEntry_error entry read] at decoded
    cases decoded

theorem typed_of_table (found : s.table? "Interface" = some table) : s.typed InterfaceSpec = table.decode.rows := by
  unfold Snapshot.typed Snapshot.decode
  rw [show Table.name (Record.table InterfaceSpec) = "Interface" from rfl,found]

theorem typed_of_none (missing : s.table? "Interface" = none) : s.typed InterfaceSpec = [] := by
  unfold Snapshot.typed Snapshot.decode
  rw [show Table.name (Record.table InterfaceSpec) = "Interface" from rfl,missing]

theorem mem_specs_iff (s : Snapshot) (spec : InterfaceSpec) : spec ∈ specs s ↔ ∃ table key row,
    s.table? "Interface" = some table ∧ table.get? key = some row ∧ decodeRow row.fields = .ok spec := by
  unfold specs
  cases found : s.table? "Interface" with
  | none => simp [typed_of_none found]
  | some table => simp [typed_of_table found,TableSnapshot.mem_values_decode_iff]

theorem key_of_mem_typed {row : TypedRow InterfaceSpec} (member : row ∈ s.typed InterfaceSpec) :
    row.key = row.value.name := by
  cases found : s.table? "Interface" with
  | none => simp [typed_of_none found] at member
  | some table =>
    rw [typed_of_table found,TableSnapshot.mem_rows_iff] at member
    obtain ⟨entry,_,decoded⟩ := member
    exact (of_decodeEntry decoded).2

/-- Interfaces come in the order of their names, as the rows come in the order of their keys. -/
theorem specs_sorted (built : Built s) : (specs s).Pairwise (·.name < ·.name) := by
  unfold specs
  rw [List.pairwise_map]
  have keys : (s.typed InterfaceSpec).Pairwise (·.key < ·.key) := by
    cases found : s.table? "Interface" with
    | none => simp [typed_of_none found]
    | some table =>
      obtain ⟨name,rows,rfl⟩ := built table found
      rw [typed_of_table found]
      exact List.pairwise_map.mp (TableSnapshot.keys_sorted (t := .interface) rfl)
  refine keys.imp_of_mem fun first second below => ?_
  rwa [key_of_mem_typed first,key_of_mem_typed second] at below

end Rows

/-- The steps for an interface. The bridge has no place on itself. -/
def rowSteps (bridge : String) (spec : InterfaceSpec) : List Step :=
  (if spec.name = bridge then [] else
    .ensure ⟨"ovs-vsctl",["port-to-br",spec.name]⟩ (fun o => o.success && o.lines.contains bridge)
        ⟨"ovs-vsctl",["--may-exist","add-port",bridge,spec.name]⟩ ::
      spec.vlan.toList.map fun tag => .change ⟨"ovs-vsctl",["set","port",spec.name,"tag=" ++ toString tag.toNat]⟩) ++
  ((spec.mtu.toList.filter (0 < ·)).map fun mtu =>
    .change ⟨"ip",["link","set","dev",spec.name,"mtu",toString mtu.toNat]⟩) ++
  (spec.state.toList.map fun state => .change ⟨"ip",["link","set","dev",spec.name,Word.text state]⟩) ++
  (((spec.ip.toList.map Text.trim).filter (· ≠ "")).map fun address =>
    .change ⟨"ip",["addr","replace",address,"dev",spec.name]⟩)

def bridgeSteps (bridge : String) (specs : List InterfaceSpec) : List Step :=
  if specs.isEmpty then []
  else [.ensure ⟨"ovs-vsctl",["br-exists",bridge]⟩ Output.success ⟨"ovs-vsctl",["--may-exist","add-br",bridge]⟩]

/-- The first row of the host-wide settings. One that cannot be read counts without its log level. -/
def settings? (s : Snapshot) : Option SystemSettings :=
  ((s.table? "System").bind (·.first?)).bind fun row =>
    (decodeRow row.fields).toOption.or (decodeRow (row.fields.erase "logging_level")).toOption

def hostnameSteps (s : Snapshot) : List Step :=
  ((((settings? s).bind (·.hostname)).toList.map Text.trim).filter (· ≠ "")).map fun hostname =>
    .change ⟨"hostname",[hostname]⟩

/-- What a pass runs for the host name, for the bridge and for each interface. -/
structure Course where
  hostname : List Event
  bridge : List Event
  rows : List (List Event)

def Course.events (c : Course) : List Event := c.hostname ++ c.bridge ++ c.rows.flatten

def course (n : Network) (s : Snapshot) (history : List Command) : Course :=
  let hostname := events n.system.tools history (hostnameSteps s)
  let bridge := events n.tools (history ++ commands hostname) (bridgeSteps n.bridge (specs s))
  ⟨hostname,bridge,groups n.tools (history ++ commands (hostname ++ bridge)) ((specs s).map (rowSteps n.bridge))⟩

section Interfaces

theorem toList_trimmed (text : Option String) :
    (text.bind Text.trimmed?).toList = (text.toList.map Text.trim).filter (· ≠ "") := by
  cases text with
  | none => rfl
  | some s =>
    rw [Option.bind_some,Text.trimmed?]
    by_cases blank : Text.trim s = "" <;> simp [blank]

theorem rowSteps_eq (n : Network) (spec : InterfaceSpec) : rowSteps n.bridge spec =
    (if spec.name = n.bridge then []
      else [.ensure (vsctl ["port-to-br",spec.name]) (fun o => o.success && o.lines.contains n.bridge)
        (vsctl ["--may-exist","add-port",n.bridge,spec.name])]) ++ (n.settings spec).map .change := by
  have mtu : (spec.mtu.bind fun mtu => if mtu.toNat > 0 then
      some (ip ["link","set","dev",spec.name,"mtu",toString mtu.toNat]) else none).toList =
      (spec.mtu.toList.filter (0 < ·)).map fun mtu => ip ["link","set","dev",spec.name,"mtu",toString mtu.toNat] := by
    cases spec.mtu with
    | none => rfl
    | some mtu => by_cases positive : 0 < mtu.toNat <;> simp [positive,UInt32.lt_iff_toNat_lt]
  have address : ((spec.ip.bind Text.trimmed?).map fun a => ip ["addr","replace",a,"dev",spec.name]).toList =
      ((spec.ip.toList.map Text.trim).filter (· ≠ "")).map fun a => ip ["addr","replace",a,"dev",spec.name] := by
    rw [← toList_trimmed,Option.toList_map]
  unfold rowSteps settings
  rw [mtu,address]
  by_cases itself : spec.name = n.bridge
  · simp [itself,Option.toList_map,Function.comp_def,ip]
  · simp [itself,Option.toList_map,Function.comp_def,ip,vsctl]

theorem follows_applyInterface (n : Network) (spec : InterfaceSpec) (h : Host) :
    Follows n.tools (rowSteps n.bridge spec) h (n.applyInterface spec h) := by
  rw [rowSteps_eq,applyInterface]
  split
  · exact follows_runAll n.tools (n.settings spec) h
  · have port := follows_ensure n.tools (vsctl ["port-to-br",spec.name])
      (fun o => o.success && o.lines.contains n.bridge) (vsctl ["--may-exist","add-port",n.bridge,spec.name]) h
    rw [← ensurePort_eq] at port
    have whole := port.append (follows_runAll n.tools (n.settings spec) _)
    generalize n.ensurePort spec.name h = result at whole
    rcases result with ⟨_ | _,after⟩
    · exact whole
    · exact whole

def failuresUnder (name : String) (events : List Event) : List RowFailure :=
  (failures events).map fun e => ⟨name,e.message⟩

theorem foldl_recordFailure (key : String) (errors : List CommandError) (report : SyncReport) :
    errors.foldl (fun r e => r.recordFailure key e.message) report =
      {report with failed := report.failed ++ errors.map fun e => ⟨key,e.message⟩} := by
  induction errors generalizing report with
  | nil => simp
  | cons e rest ih =>
    rw [List.foldl_cons,ih]
    simp [SyncReport.recordFailure]

theorem recorded_row (key : String) (errors : List CommandError) (report : SyncReport) :
    (if errors.isEmpty then report.recordApplied
      else errors.foldl (fun r e => r.recordFailure key e.message) report) =
    ⟨report.applied + (if errors.isEmpty then 1 else 0),report.skipped,
      report.failed ++ errors.map fun e => ⟨key,e.message⟩⟩ := by
  cases errors with
  | nil => simp [SyncReport.recordApplied]
  | cons e rest =>
    rw [foldl_recordFailure]
    rfl

/-- Rows are applied one after another, and each is reported by what failed in its own steps. -/
theorem applyRows_eq (n : Network) (rows : List (TypedRow InterfaceSpec)) (report : SyncReport) (h : Host) :
    let outcomes := groups n.tools h.calls (rows.map fun row => rowSteps n.bridge row.value)
    (n.applyRows rows report h).1 = ⟨report.applied + outcomes.countP (fun events => (failures events).isEmpty),
      report.skipped,report.failed ++ (List.zipWith failuresUnder (rows.map (·.key)) outcomes).flatten⟩ ∧
    (n.applyRows rows report h).2.calls = h.calls ++ commands outcomes.flatten := by
  -- The report so far is arbitrary, since each row adds to what the rows before it have left.
  induction rows generalizing report h with
  | nil => simp [applyRows,groups,commands]
  | cons row rest ih =>
    have own := follows_applyInterface n row.value h
    rw [applyRows]
    dsimp only
    generalize n.applyInterface row.value h = result at own
    obtain ⟨errors,after⟩ := result
    obtain ⟨calls,rfl⟩ := own
    dsimp only at calls
    rw [recorded_row,List.map_cons,groups]
    generalize events n.tools h.calls (rowSteps n.bridge row.value) = first at calls
    have later := ih ⟨report.applied + (if (failures first).isEmpty then 1 else 0),report.skipped,
      report.failed ++ (failures first).map fun e => ⟨row.key,e.message⟩⟩ after
    rw [calls] at later
    refine ⟨later.1.trans ?_,later.2.trans ?_⟩
    · rw [List.countP_cons,List.map_cons,List.zipWith_cons_cons,List.flatten_cons,List.append_assoc,failuresUnder]
      simp only [SyncReport.mk.injEq,and_self,and_true]
      omega
    · rw [List.flatten_cons,commands_append,List.append_assoc]

end Interfaces

section Passes

variable (n : Network) (s : Snapshot) (state : State)

def systemPass : SyncReport × State :=
  match systemSettings s {} with
  | (report,none) => (report,state)
  | (report,some settings) =>
    let (report,levels,host) := n.system.apply settings report state.levels state.host
    (report,⟨levels,host⟩)

def recordBridge (report : SyncReport) : Except CommandError Unit → SyncReport
  | .ok () => report
  | .error e => report.recordFailure n.bridge e.message

def interfacePass (rows : List (TypedRow InterfaceSpec)) (report : SyncReport) (h : Host) : SyncReport × Host :=
  let (bridge,h) := n.ensureBridge h
  n.applyRows rows (n.recordBridge report bridge) h

theorem sync_of_nil (unread : s.typed InterfaceSpec = []) : n.sync s state = n.systemPass s state := by
  unfold sync systemPass
  rcases systemSettings s {} with ⟨report,_ | settings⟩ <;> simp only [unread]

theorem recordBridge_eq (report : SyncReport) (outcome : Except CommandError Unit) : n.recordBridge report outcome =
    ⟨report.applied,report.skipped,report.failed ++ (errors outcome).map fun e => ⟨n.bridge,e.message⟩⟩ := by
  cases outcome with
  | ok => simp [recordBridge,errors]
  | error e => rfl

theorem sync_of_rows (read : s.typed InterfaceSpec ≠ []) : n.sync s state =
    ((n.interfacePass (s.typed InterfaceSpec) (n.systemPass s state).1 (n.systemPass s state).2.host).1,
      ⟨(n.systemPass s state).2.levels,
        (n.interfacePass (s.typed InterfaceSpec) (n.systemPass s state).1 (n.systemPass s state).2.host).2⟩) := by
  unfold sync systemPass interfacePass
  rcases systemSettings s {} with ⟨report,_ | settings⟩
  all_goals
    cases rows : s.typed InterfaceSpec with
    | nil => exact absurd rows read
    | cons => rfl

theorem systemSettings_eq : (systemSettings s {}).2 = settings? s := by
  unfold systemSettings settings?
  rw [show Table.name .system = "System" from rfl]
  cases (s.table? "System").bind (·.first?) with
  | none => rfl
  | some row =>
    dsimp only [Option.bind_some]
    cases decodeRow (α := SystemSettings) row.fields with
    | ok settings => rfl
    | error e => cases decodeRow (α := SystemSettings) (row.fields.erase "logging_level") <;> rfl

theorem calls_applyHostname (a : SystemApplier) (settings : SystemSettings) (report : SyncReport) (h : Host) :
    (a.applyHostname settings report h).2.calls = h.calls ++ commands (events a.tools h.calls
      ((settings.hostname.bind Text.trimmed?).toList.map fun hostname => .change ⟨"hostname",[hostname]⟩)) := by
  unfold SystemApplier.applyHostname
  cases settings.hostname.bind Text.trimmed? with
  | none => simp [events,commands]
  | some hostname =>
    have called : (h.runChecked a.tools ⟨"hostname",[hostname]⟩).2.calls = h.calls ++ [⟨"hostname",[hostname]⟩] := rfl
    dsimp only
    generalize h.runChecked a.tools ⟨"hostname",[hostname]⟩ = result at called ⊢
    rcases result with ⟨_ | _,after⟩ <;> exact called

theorem calls_systemPass : (n.systemPass s state).2.host.calls =
    state.host.calls ++ commands (events n.system.tools state.host.calls (hostnameSteps s)) := by
  have found := systemSettings_eq s
  unfold systemPass hostnameSteps
  rw [← found,← toList_trimmed]
  rcases systemSettings s {} with ⟨report,_ | settings⟩
  · simp [events,commands]
  -- Of the settings of a row, the host name alone takes a command.
  · exact (SystemApplier.calls_applyTimezone n.system settings _ _).trans (calls_applyHostname n.system settings _ _)

theorem interfacePass_eq (report : SyncReport) (h : Host) (read : s.typed InterfaceSpec ≠ []) :
    let bridge := events n.tools h.calls (bridgeSteps n.bridge (specs s))
    let rows := groups n.tools (h.calls ++ commands bridge) ((specs s).map (rowSteps n.bridge))
    (n.interfacePass (s.typed InterfaceSpec) report h).1 =
      ⟨report.applied + rows.countP (fun events => (failures events).isEmpty),report.skipped,
        report.failed ++ failuresUnder n.bridge bridge ++
          (List.zipWith failuresUnder ((specs s).map (·.name)) rows).flatten⟩ ∧
    (n.interfacePass (s.typed InterfaceSpec) report h).2.calls = h.calls ++ commands (bridge ++ rows.flatten) := by
  have keys : (s.typed InterfaceSpec).map (·.key) = (specs s).map (·.name) := by
    rw [specs,List.map_map]
    exact List.map_congr_left fun row member => key_of_mem_typed member
  have steps : (s.typed InterfaceSpec).map (fun row => rowSteps n.bridge row.value) =
      (specs s).map (rowSteps n.bridge) := by
    rw [specs,List.map_map]
    rfl
  have asked : bridgeSteps n.bridge (specs s) = [.ensure (vsctl ["br-exists",n.bridge]) Output.success
      (vsctl ["--may-exist","add-br",n.bridge])] := by
    simp [bridgeSteps,specs,read,vsctl]
  have bridge := follows_ensure n.tools (vsctl ["br-exists",n.bridge]) Output.success
    (vsctl ["--may-exist","add-br",n.bridge]) h
  rw [← ensureBridge_eq,← asked] at bridge
  unfold interfacePass
  generalize n.ensureBridge h = result at bridge
  obtain ⟨outcome,after⟩ := result
  obtain ⟨calls,failed⟩ := bridge
  dsimp only at calls failed ⊢
  obtain ⟨applied,ran⟩ := n.applyRows_eq (s.typed InterfaceSpec) (n.recordBridge report outcome) after
  rw [keys,steps,calls] at applied
  rw [steps,calls] at ran
  refine ⟨?_,?_⟩
  · rw [applied,recordBridge_eq,failed]
    rfl
  · rw [ran,commands_append,List.append_assoc]

/-- The commands of a pass depend on the answers to its queries, and on nothing else that is answered. -/
theorem commands_course (history : List Command) : commands (course n s history).events =
    script (verdicts (course n s history).events)
      (hostnameSteps s ++ (bridgeSteps n.bridge (specs s) ++ (specs s).flatMap (rowSteps n.bridge))) := by
  unfold course Course.events
  dsimp only
  rw [flatten_groups,← List.flatMap_def]
  simp only [commands_append,verdicts_append,List.append_assoc,script_events,← commands_eq_script]

/-- For any answers of the tools, a pass runs the steps for the host name, for the bridge if there is an
interface at all, and for each interface in the order of the names. It reports an interface as applied if no
change in its steps failed, and otherwise each of them that did, after what failed for the bridge. Whatever the
tools answer to changes, the commands stay the same as long as the queries come out the same. -/
theorem pass_runs_all_steps (built : Built s) :
    (specs s).Pairwise (·.name < ·.name) ∧
    (∀ spec, spec ∈ specs s ↔ ∃ table key row,
      s.table? "Interface" = some table ∧ table.get? key = some row ∧ decodeRow row.fields = .ok spec) ∧
    let c := course n s state.host.calls
    let system := (n.systemPass s state).1
    (n.sync s state).2.host.calls = state.host.calls ++ commands c.events ∧
    (n.sync s state).1 = ⟨system.applied + c.rows.countP (fun events => (failures events).isEmpty),system.skipped,
      system.failed ++ failuresUnder n.bridge c.bridge ++
        (List.zipWith failuresUnder ((specs s).map (·.name)) c.rows).flatten⟩ ∧
    ∀ (other : Network) (history : List Command), other.bridge = n.bridge →
      verdicts (course other s history).events = verdicts c.events →
      commands (course other s history).events = commands c.events := by
  have start := n.calls_systemPass s state
  refine ⟨specs_sorted built,mem_specs_iff s,?_,?_,fun other history bridge same => ?_⟩
  · by_cases unread : s.typed InterfaceSpec = []
    · rw [n.sync_of_nil s state unread,start]
      simp [course,Course.events,specs,unread,bridgeSteps,groups,events]
    · obtain ⟨_,ran⟩ := n.interfacePass_eq s (n.systemPass s state).1 (n.systemPass s state).2.host unread
      rw [n.sync_of_rows s state unread]
      dsimp only
      rw [ran,start]
      simp only [course,Course.events,commands_append,List.append_assoc]
  · by_cases unread : s.typed InterfaceSpec = []
    · rw [n.sync_of_nil s state unread]
      simp [course,specs,unread,bridgeSteps,groups,events,failuresUnder,failures]
    · obtain ⟨reported,_⟩ := n.interfacePass_eq s (n.systemPass s state).1 (n.systemPass s state).2.host unread
      rw [n.sync_of_rows s state unread]
      dsimp only
      rw [reported,start]
      simp only [course,commands_append,List.append_assoc]
  · rw [commands_course,commands_course,same,bridge]

end Passes

def trunk : Snapshot :=
  ((Snapshot.new 1).withTable (.ofRows "System" [⟨"1",.ofList [("hostname",.text "edge1")]⟩])).withTable
    (.ofRows "Interface"
      [⟨"2",.ofList [("name",.text "br0"),("state",.text "up")]⟩,
        ⟨"3",.ofList [("name",.text "eth0"),("mtu",.int 9000),("vlan",.int 100)]⟩,
        ⟨"4",.ofList [("name",.text "eth1"),("ip",.text " 10.0.0.5/24 "),("mtu",.int 0)]⟩])

/-- The first interface is missing, and the second one is on the bridge. -/
def faultyTools : Tools := fun _ c =>
  if c.args.contains "eth0" then ⟨⟨some 1,"no such device\n"⟩,[]⟩ else ⟨.ok "br0\n",[]⟩

def faultyNetwork : Network := ⟨faultyTools,"br0",⟨faultyTools,"/etc/timezone",none⟩⟩

theorem missing_device_blocks_no_other : Built trunk ∧
    (faultyNetwork.sync trunk ⟨{},.new .empty⟩).2.host.calls.map Command.text = ["hostname edge1",
      "ovs-vsctl br-exists br0","ip link set dev br0 up","ovs-vsctl port-to-br eth0",
      "ovs-vsctl --may-exist add-port br0 eth0","ovs-vsctl set port eth0 tag=100","ip link set dev eth0 mtu 9000",
      "ovs-vsctl port-to-br eth1","ip addr replace 10.0.0.5/24 dev eth1"] ∧
    (faultyNetwork.sync trunk ⟨{},.new .empty⟩).1.applied = 3 ∧
    (faultyNetwork.sync trunk ⟨{},.new .empty⟩).1.failedKeys = ["eth0","eth0","eth0"] := by
  have built : Built trunk := by
    intro table found
    exact ⟨"Interface",_,(Option.some.inj found).symm⟩
  obtain ⟨_,_,calls,report,_⟩ := pass_runs_all_steps faultyNetwork trunk ⟨{},.new .empty⟩ built
  refine ⟨built,?_,?_,?_⟩
  · rw [calls]
    decide +kernel
  · rw [report]
    decide +kernel
  · rw [report]
    decide +kernel

end Network

end Hostkeeper
