import Hostkeeper.Proofs.Host.Histories
import Hostkeeper.Proofs.Network.Pass
import Hostkeeper.Proofs.Text.Lines

/-! The network domain and the switch that it works on. Its queries are answered by a switch that its own
changes have made what it is, so what a pass finds missing is what no pass before it has brought about. Of the
switch no more is assumed than what the commands of the domain do to it: what any other command of its program
does is left open. -/
namespace Hostkeeper.Network

structure Switch where
  bridges : List String
  ports : KeyMap String

def brExists (bridge : String) : Command := vsctl ["br-exists",bridge]

def addBridge (bridge : String) : Command := vsctl ["--may-exist","add-br",bridge]

def portToBr (port : String) : Command := vsctl ["port-to-br",port]

def addPort (bridge port : String) : Command := vsctl ["--may-exist","add-port",bridge,port]

namespace Switch

def withBridge (s : Switch) (bridge : String) : Switch := {s with bridges := s.bridges.insert bridge}

/-- A free port comes to a bridge. A port on a bridge stays where it is. -/
def withPort (s : Switch) (bridge port : String) : Switch :=
  if bridge ∈ s.bridges ∧ s.ports.get? port = none then {s with ports := s.ports.insert port bridge} else s

/-- All bridges and all ports stay, and ports come to one bridge only. -/
structure Grown (bridge : String) (before after : Switch) : Prop where
  bridges {b : String} : b ∈ before.bridges → b ∈ after.bridges
  stays {port b : String} : before.ports.get? port = some b → after.ports.get? port = some b
  comes {port b : String} : after.ports.get? port = some b → before.ports.get? port = some b ∨ b = bridge

variable {bridge : String} {s first second third : Switch}

theorem Grown.refl (s : Switch) : Grown bridge s s := ⟨id,id,.inl⟩

theorem Grown.trans (one : Grown bridge first second) (two : Grown bridge second third) : Grown bridge first third := by
  refine ⟨two.bridges ∘ one.bridges,two.stays ∘ one.stays,fun on => ?_⟩
  rcases two.comes on with before | own
  · exact one.comes before
  · exact .inr own

theorem Grown.isSome (grown : Grown bridge first second) {port : String} (placed : first.ports.get? port ≠ none) :
    second.ports.get? port ≠ none := by
  obtain ⟨b,on⟩ := Option.ne_none_iff_exists'.mp placed
  simp [grown.stays on]

theorem mem_withBridge : bridge ∈ (s.withBridge bridge).bridges := List.mem_insert_self

theorem grown_withBridge (other : String) : Grown bridge s (s.withBridge other) :=
  ⟨List.mem_insert_of_mem,id,.inl⟩

theorem grown_withPort (port : String) : Grown bridge s (s.withPort bridge port) := by
  unfold withPort
  split
  next free =>
    refine ⟨id,fun {p b} on => ?_,fun {p b} on => ?_⟩
    · have other : p ≠ port := by
        rintro rfl
        simp [free.2] at on
      simpa [other] using on
    · by_cases same : p = port
      · exact .inr (by simpa [same] using on.symm)
      · exact .inl (by simpa [same] using on)
  next => exact .refl s

theorem placed_withPort (present : bridge ∈ s.bridges) (port : String) :
    (s.withPort bridge port).ports.get? port ≠ none := by
  unfold withPort
  split
  next => simp
  next taken => exact fun free => taken ⟨present,free⟩

end Switch

/-- The commands that leave the bridges and the places of ports alone. -/
inductive Quiet : Command → Prop
  | brExists (bridge : String) : Quiet (brExists bridge)
  | portToBr (port : String) : Quiet (portToBr port)
  | tag (port : String) (number : Nat) : Quiet (vsctl ["set","port",port,"tag=" ++ toString number])
  | elsewhere {c : Command} (other : c.program ≠ "ovs-vsctl") : Quiet c

/-- Tools whose switch does what it is asked to and tells what it is. -/
structure Honest (tools : Tools) (switch : List Command → Switch) : Prop where
  tells_bridge (h : List Command) (b : String) :
    (tools h (brExists b)).output.code = some (if b ∈ (switch h).bridges then 0 else 2)
  tells_port {h : List Command} {port b : String} :
    (switch h).ports.get? port = some b → (tools h (portToBr port)).output = .ok (b ++ "\n")
  tells_free {h : List Command} {port : String} :
    (switch h).ports.get? port = none → (tools h (portToBr port)).output.code = some 1
  makes_bridge (h : List Command) (b : String) : switch (h ++ [addBridge b]) = (switch h).withBridge b
  puts_port (h : List Command) (b port : String) : switch (h ++ [addPort b port]) = (switch h).withPort b port
  succeeds {h : List Command} {b port : String} : (tools h (addPort b port)).output.success = true →
    (switch (h ++ [addPort b port])).ports.get? port = some b
  keeps {c : Command} (h : List Command) : Quiet c → switch (h ++ [c]) = switch h

/-- What may be run in a pass: the bridge is made where it is missing, ports are put where they are not, and no
other command touches either. -/
inductive Due (bridge : String) (switch : List Command → Switch) (h : List Command) : Command → Prop
  | quiet {c : Command} : Quiet c → Due bridge switch h c
  | bridge : bridge ∉ (switch h).bridges → Due bridge switch h (addBridge bridge)
  | port (port : String) : (switch h).ports.get? port ≠ some bridge → Due bridge switch h (addPort bridge port)

section Runs

variable {tools : Tools} {switch : List Command → Switch} {bridge : String} {h run : List Command}

theorem not_quiet_mayExist (args : List String) : ¬Quiet (vsctl ("--may-exist" :: args)) := by
  generalize same : vsctl ("--may-exist" :: args) = c
  rintro (_ | _ | _ | other)
  · simp [brExists,vsctl] at same
  · simp [portToBr,vsctl] at same
  · simp [vsctl] at same
  · exact other (same ▸ rfl)

theorem Due.missing {b : String} (due : Due bridge switch h (addBridge b)) : bridge ∉ (switch h).bridges := by
  generalize same : addBridge b = c at due
  cases due with
  | quiet quiet => exact absurd (same ▸ quiet) (not_quiet_mayExist _)
  | bridge missing => exact missing
  | port => simp [addBridge,addPort,vsctl] at same

theorem Due.unplaced {b port : String} (due : Due bridge switch h (addPort b port)) :
    (switch h).ports.get? port ≠ some bridge := by
  generalize same : addPort b port = c at due
  cases due with
  | quiet quiet => exact absurd (same ▸ quiet) (not_quiet_mayExist _)
  | bridge => simp [addBridge,addPort,vsctl] at same
  | port other unplaced =>
    obtain ⟨-,rfl⟩ : b = bridge ∧ port = other := by simpa [addPort,vsctl] using same
    exact unplaced

namespace Honest

variable (honest : Honest tools switch)

include honest

theorem grown_of_due {c : Command} (due : Due bridge switch h c) :
    Switch.Grown bridge (switch h) (switch (h ++ [c])) := by
  cases due with
  | quiet quiet => exact honest.keeps h quiet ▸ .refl _
  | bridge => exact honest.makes_bridge h bridge ▸ Switch.grown_withBridge bridge
  | port port => exact honest.puts_port h bridge port ▸ Switch.grown_withPort port

theorem grown (heeds : Heeds (Due bridge switch) h run) : Switch.Grown bridge (switch h) (switch (h ++ run)) :=
  heeds.keeps (fun later => Switch.Grown bridge (switch h) (switch later))
    (fun _ _ due before => before.trans (honest.grown_of_due due)) (.refl _)

theorem count_addBridge_le_one (heeds : Heeds (Due bridge switch) h run) : run.count (addBridge bridge) ≤ 1 := by
  rw [← times_true tools h]
  refine times_le_one (fun h => bridge ∈ (switch h).bridges) (fun _ _ due => (honest.grown_of_due due).bridges)
    (fun _ due => due.missing) (fun h _ _ => ?_) heeds
  rw [honest.makes_bridge]
  exact Switch.mem_withBridge

theorem times_addPort_le_one (heeds : Heeds (Due bridge switch) h run) (port : String) :
    times tools (addPort bridge port) Output.success h run ≤ 1 :=
  times_le_one (fun h => (switch h).ports.get? port = some bridge)
    (fun _ _ due => (honest.grown_of_due due).stays) (fun _ due => due.unplaced) (fun _ _ => honest.succeeds) heeds

theorem present_of_success {b : String} (found : (tools h (brExists b)).output.success = true) :
    b ∈ (switch h).bridges := by
  by_contra missing
  have told := honest.tells_bridge h b
  rw [if_neg missing] at told
  simp [Output.success,told] at found

theorem placed_of_success {port : String} (found : (tools h (portToBr port)).output.success = true) :
    (switch h).ports.get? port ≠ none := by
  intro free
  simp [Output.success,honest.tells_free free] at found

end Honest

/-- The steps of a pass: to make the bridge, to put a port on it, and changes that leave both alone. -/
inductive Tame (bridge : String) : Step → Prop
  | change {c : Command} : Quiet c → Tame bridge (.change c)
  | bridge : Tame bridge (.ensure (brExists bridge) Output.success (addBridge bridge))
  | port (port : String) :
    Tame bridge (.ensure (portToBr port) (fun o => o.success && o.lines.contains bridge) (addPort bridge port))

section Steps

variable (honest : Honest tools switch) (plain : Text.IsLine bridge)

include honest plain

theorem Tame.heeds {step : Step} (tame : Tame bridge step) (h : List Command) :
    Heeds (Due bridge switch) h (commands (step.events tools h)) := by
  cases tame with
  | change quiet => exact Heeds.cons_iff.mpr ⟨.quiet quiet,.nil _⟩
  | bridge =>
    rw [Step.events]
    split
    next => exact Heeds.cons_iff.mpr ⟨.quiet (.brExists bridge),.nil _⟩
    next asked =>
      refine Heeds.cons_iff.mpr ⟨.quiet (.brExists bridge),Heeds.cons_iff.mpr ⟨.bridge fun present => asked ?_,.nil _⟩⟩
      rw [Event.command,honest.keeps h (.brExists bridge)] at present
      simp [Output.success,honest.tells_bridge,present]
  | port port =>
    rw [Step.events]
    split
    next => exact Heeds.cons_iff.mpr ⟨.quiet (.portToBr port),.nil _⟩
    next asked =>
      refine Heeds.cons_iff.mpr ⟨.quiet (.portToBr port),Heeds.cons_iff.mpr ⟨.port port fun on => asked ?_,.nil _⟩⟩
      rw [Event.command,honest.keeps h (.portToBr port)] at on
      -- The name of the bridge is read back, for it is a line that no blank stands around.
      have read := Text.mem_filledLines_ofLines (List.mem_singleton_self bridge) plain
      simp only [Text.ofLines,List.foldr_cons,List.foldr_nil,String.append_empty] at read
      simpa [honest.tells_port on,Output.ok,Output.success,Output.lines] using read

theorem heeds_events {steps : List Step} (tame : ∀ step ∈ steps, Tame bridge step) (h : List Command) :
    Heeds (Due bridge switch) h (commands (events tools h steps)) := by
  induction steps generalizing h with
  | nil => exact .nil h
  | cons step rest ih =>
    rw [events,commands_append,Heeds.append_iff]
    exact ⟨(tame step List.mem_cons_self).heeds honest plain h,
      ih (fun other member => tame other (List.mem_cons_of_mem step member)) _⟩

omit plain in
theorem present_after_bridge (bridge : String) (h : List Command) : bridge ∈ (switch (h ++ commands
    (Step.events tools h (.ensure (brExists bridge) Output.success (addBridge bridge))))).bridges := by
  rw [Step.events]
  split
  next found =>
    have kept : switch (h ++ [brExists bridge]) = switch h := honest.keeps h (.brExists bridge)
    simpa [commands,Event.command,kept] using honest.present_of_success found
  next =>
    have made := honest.makes_bridge (h ++ [brExists bridge]) bridge
    rw [List.append_assoc] at made
    exact made ▸ Switch.mem_withBridge

omit plain in
theorem placed_after_port (present : bridge ∈ (switch h).bridges) (port : String) : (switch (h ++ commands
    (Step.events tools h (.ensure (portToBr port) (fun o => o.success && o.lines.contains bridge)
      (addPort bridge port))))).ports.get? port ≠ none := by
  have kept : switch (h ++ [portToBr port]) = switch h := honest.keeps h (.portToBr port)
  rw [Step.events]
  split
  next found =>
    have success := (Bool.and_eq_true_iff.mp found).1
    simpa [commands,Event.command,kept] using honest.placed_of_success success
  next =>
    have put := honest.puts_port (h ++ [portToBr port]) bridge port
    rw [List.append_assoc,kept] at put
    exact put ▸ Switch.placed_withPort present port

theorem placed_after_steps {steps : List Step} (tame : ∀ step ∈ steps, Tame bridge step)
    (present : bridge ∈ (switch h).bridges) {port : String}
    (asked : .ensure (portToBr port) (fun o => o.success && o.lines.contains bridge) (addPort bridge port) ∈ steps) :
    (switch (h ++ commands (events tools h steps))).ports.get? port ≠ none := by
  obtain ⟨before,after,rfl⟩ := List.append_of_mem asked
  have first := honest.grown (heeds_events honest plain (fun s m => tame s (List.mem_append_left _ m)) h)
  have last := fun h => honest.grown (heeds_events honest plain
    (fun s m => tame s (List.mem_append_right _ (List.mem_cons_of_mem _ m))) h)
  rw [events_append,events,commands_append,commands_append,← List.append_assoc,← List.append_assoc]
  exact (last _).isSome (placed_after_port honest (first.bridges present) port)

end Steps

end Runs

section Passes

variable {switch : List Command → Switch} (n : Network)

def State.calls (st : State) : List Command := st.host.calls

def pass (s : Snapshot) (st : State) : State := (n.sync s st).2

/-- The steps of a pass that come after the host name. -/
def portSteps (s : Snapshot) : List Step := bridgeSteps n.bridge (specs s) ++ (specs s).flatMap (rowSteps n.bridge)

theorem commands_changes (tools : Tools) (h changes : List Command) :
    commands (events tools h (changes.map .change)) = changes := by
  induction changes generalizing h with
  | nil => rfl
  | cons c rest ih => exact congrArg (c :: ·) (ih _)

def hostnames (s : Snapshot) : List Command :=
  ((((settings? s).bind (·.hostname)).toList.map Text.trim).filter (· ≠ "")).map fun hostname => ⟨"hostname",[hostname]⟩

theorem calls_pass (s : Snapshot) (st : State) : (n.pass s st).calls = st.calls ++ hostnames s ++
    commands (events n.tools (st.calls ++ hostnames s) (n.portSteps s)) := by
  unfold pass State.calls
  have named : (n.systemPass s st).2.host.calls = st.host.calls ++ hostnames s := by
    rw [calls_systemPass,show hostnameSteps s = (hostnames s).map .change by simp [hostnameSteps,hostnames],
      commands_changes]
  by_cases unread : s.typed InterfaceSpec = []
  · rw [n.sync_of_nil s st unread,named]
    simp [portSteps,specs,unread,bridgeSteps,events,commands]
  · obtain ⟨-,ran⟩ := n.interfacePass_eq s (n.systemPass s st).1 (n.systemPass s st).2.host unread
    rw [n.sync_of_rows s st unread]
    dsimp only
    rw [ran,named,flatten_groups,← List.flatMap_def,← events_append]
    rfl

variable {n}

theorem tame_portSteps (s : Snapshot) : ∀ step ∈ n.portSteps s, Tame n.bridge step := by
  intro step member
  rcases List.mem_append.mp member with own | row
  · unfold bridgeSteps at own
    split at own
    · cases own
    · exact List.mem_singleton.mp own ▸ .bridge
  · obtain ⟨spec,-,part⟩ := List.mem_flatMap.mp row
    have ip (args : List String) : Tame n.bridge (.change ⟨"ip",args⟩) := .change (.elsewhere (by simp))
    simp only [rowSteps,List.mem_append,List.mem_map] at part
    rcases part with ((place | ⟨_,-,rfl⟩) | ⟨_,-,rfl⟩) | ⟨_,-,rfl⟩
    · split at place
      · cases place
      · rcases List.mem_cons.mp place with rfl | tagged
        · exact .port spec.name
        · obtain ⟨tag,-,rfl⟩ := List.mem_map.mp tagged
          exact .change (.tag spec.name tag.toNat)
    all_goals exact ip _

section Honest

variable (honest : Honest n.tools switch) (plain : Text.IsLine n.bridge)

include honest plain

theorem heeds_pass (s : Snapshot) (st : State) : ∃ run, (n.pass s st).calls = st.calls ++ run ∧
    Heeds (Due n.bridge switch) st.calls run := by
  refine ⟨hostnames s ++ commands (events n.tools (st.calls ++ hostnames s) (n.portSteps s)),?_,?_⟩
  · rw [calls_pass,List.append_assoc]
  · refine Heeds.append_iff.mpr ⟨fun before c after split => ?_,heeds_events honest plain (tame_portSteps s) _⟩
    have member : c ∈ hostnames s := by simp [split]
    obtain ⟨hostname,-,rfl⟩ := List.mem_map.mp member
    exact .quiet (.elsewhere (by simp))

theorem settled_pass (s : Snapshot) (st : State) (read : specs s ≠ []) :
    n.bridge ∈ (switch (n.pass s st).calls).bridges ∧
    ∀ spec ∈ specs s, spec.name ≠ n.bridge → (switch (n.pass s st).calls).ports.get? spec.name ≠ none := by
  have tame := tame_portSteps (n := n) s
  rw [calls_pass]
  generalize st.calls ++ hostnames s = h
  -- The bridge comes first, and no step after it takes it away again.
  have first : n.portSteps s = .ensure (brExists n.bridge) Output.success (addBridge n.bridge) ::
      (specs s).flatMap (rowSteps n.bridge) := by
    simp [portSteps,bridgeSteps,read,brExists,addBridge,vsctl]
  rw [first] at tame ⊢
  have rest := fun step member => tame step (List.mem_cons_of_mem _ member)
  rw [events,commands_append,← List.append_assoc]
  have present := present_after_bridge honest n.bridge h
  refine ⟨(honest.grown (heeds_events honest plain rest _)).bridges present,fun spec member other => ?_⟩
  refine placed_after_steps honest plain rest present (List.mem_flatMap.mpr ⟨spec,member,?_⟩)
  simp [rowSteps,other,portToBr,addPort,vsctl]

end Honest

/-- Over any passes with an honest switch, every command is due at its moment. The bridge is made at most once,
each port is put on it at most once, and ports that are on a bridge stay there. A pass that reads an interface
leaves the bridge made, and every interface but the bridge itself on it or on the other bridge that it was on. -/
theorem passes_settle_the_switch (honest : Honest n.tools switch) (filled : n.bridge ≠ "")
    (unblank : ∀ c ∈ n.bridge.toList, Text.isBlank c = false) {start final : State}
    (passes : Passes State.calls n.pass start final) :
    ∃ run, final.calls = start.calls ++ run ∧ Heeds (Due n.bridge switch) start.calls run ∧
      run.count (addBridge n.bridge) ≤ 1 ∧
      (∀ port, times n.tools (addPort n.bridge port) Output.success start.calls run ≤ 1) ∧
      (∀ first second later port b, run = first ++ second ++ later →
        (switch (start.calls ++ first)).ports.get? port = some b →
        (switch (start.calls ++ first ++ second)).ports.get? port = some b) ∧
      ∀ s, specs s ≠ [] →
        let before := switch final.calls
        let after := switch (n.pass s final).calls
        n.bridge ∈ after.bridges ∧ ∀ spec ∈ specs s, spec.name ≠ n.bridge →
          after.ports.get? spec.name = some n.bridge ∨ ∃ other, other ≠ n.bridge ∧
            before.ports.get? spec.name = some other ∧ after.ports.get? spec.name = some other := by
  have plain := Text.isLine_of_unblank filled unblank
  obtain ⟨run,calls,heeds⟩ := passes.heeds (heeds_pass honest plain)
  refine ⟨run,calls,heeds,honest.count_addBridge_le_one heeds,honest.times_addPort_le_one heeds,?_,fun s read => ?_⟩
  · rintro first second later port b rfl on
    exact (honest.grown heeds.middle).stays on
  · obtain ⟨present,placed⟩ := settled_pass honest plain s final read
    obtain ⟨more,later,due⟩ := heeds_pass honest plain s final
    refine ⟨present,fun spec member other => ?_⟩
    obtain ⟨b,on⟩ := Option.ne_none_iff_exists'.mp (placed spec member other)
    by_cases own : b = n.bridge
    · exact .inl (own ▸ on)
    · have came := (later ▸ honest.grown due).comes on
      exact .inr ⟨b,own,came.resolve_right own,on⟩

end Passes

namespace Switch

def after (s : Switch) : Command → Switch
  | ⟨"ovs-vsctl",["--may-exist","add-br",bridge]⟩ => s.withBridge bridge
  | ⟨"ovs-vsctl",["--may-exist","add-port",bridge,port]⟩ => s.withPort bridge port
  | _ => s

def answer (s : Switch) : Command → Output
  | ⟨"ovs-vsctl",["br-exists",bridge]⟩ => ⟨some (if bridge ∈ s.bridges then 0 else 2),""⟩
  | ⟨"ovs-vsctl",["port-to-br",port]⟩ =>
    match s.ports.get? port with
    | some bridge => .ok (bridge ++ "\n")
    | none => ⟨some 1,"no port named " ++ port ++ "\n"⟩
  | ⟨"ovs-vsctl",["--may-exist","add-port",bridge,port]⟩ =>
    if (s.withPort bridge port).ports.get? port = some bridge then .ok "" else ⟨some 1,"port is taken\n"⟩
  | _ => .ok ""

def tools (s : Switch) : Tools := fun h c => ⟨(h.foldl after s).answer c,[]⟩

theorem after_quiet (s : Switch) {c : Command} (quiet : Quiet c) : s.after c = s := by
  unfold after
  split
  next bridge => exact absurd quiet (not_quiet_mayExist _)
  next bridge port => exact absurd quiet (not_quiet_mayExist _)
  next => rfl

theorem honest_tools (s : Switch) : Honest s.tools (fun h => h.foldl after s) where
  tells_bridge _ _ := rfl
  tells_port {h port b} on := by simp only [tools,answer,portToBr,vsctl,on]
  tells_free {h port} free := by simp only [tools,answer,portToBr,vsctl,free]
  makes_bridge h b := by rw [List.foldl_append]; rfl
  puts_port h b port := by rw [List.foldl_append]; rfl
  succeeds {h b port} success := by
    rw [List.foldl_append]
    by_contra off
    have refused : (h.foldl after s).answer (addPort b port) = ⟨some 1,"port is taken\n"⟩ := if_neg off
    simp [tools,refused,Output.success] at success
  keeps h quiet := by rw [List.foldl_append]; exact after_quiet _ quiet

end Switch

def switchedNetwork (s : Switch) (bridge : String) : Network := ⟨s.tools,bridge,⟨s.tools,"/etc/timezone",none⟩⟩

/-- Another bridge has the second interface. -/
def sharedSwitch : Switch := ⟨["br1"],.single "eth1" "br1"⟩

def twice (n : Network) (s : Snapshot) : State := n.pass s (n.pass s ⟨{},.new .empty⟩)

theorem passes_twice (n : Network) (s : Snapshot) : Passes State.calls n.pass ⟨{},.new .empty⟩ (twice n s) :=
  .pass s (.pass s .start)

theorem taken_port_stays_on_its_bridge :
    let n := switchedNetwork sharedSwitch "br0"
    let switch := fun h : List Command => h.foldl Switch.after sharedSwitch
    Honest n.tools switch ∧ n.bridge ≠ "" ∧ (∀ c ∈ n.bridge.toList, Text.isBlank c = false) ∧
    Passes State.calls n.pass ⟨{},.new .empty⟩ (twice n trunk) ∧
    (twice n trunk).calls.count (addBridge "br0") ≤ 1 ∧
    times n.tools (addPort "br0" "eth0") Output.success [] (twice n trunk).calls ≤ 1 ∧
    (switch (twice n trunk).calls).ports.get? "eth1" = some "br1" := by
  intro n switch
  have honest : Honest n.tools switch := sharedSwitch.honest_tools
  have filled : n.bridge ≠ "" := by decide
  have unblank : ∀ c ∈ n.bridge.toList, Text.isBlank c = false := by
    have all : n.bridge.toList.all (!Text.isBlank ·) = true := by decide
    simpa using all
  obtain ⟨run,calls,-,bridges,ports,stays,-⟩ :=
    passes_settle_the_switch honest filled unblank (passes_twice n trunk)
  have whole : (twice n trunk).calls = run := calls
  rw [whole]
  exact ⟨honest,filled,unblank,passes_twice n trunk,bridges,ports "eth0",
    stays [] run [] "eth1" "br1" (List.append_nil run).symm (by decide)⟩

def uplink : Snapshot := (Snapshot.new 1).withTable (.ofRows "Interface" [⟨"1",.ofList [("name",.text "eth0")]⟩])

/-- A bridge with an empty name is never read back from the switch: no line of an answer is empty. -/
theorem nameless_bridge_is_joined_again :
    let n := switchedNetwork ⟨[],.empty⟩ ""
    let switch := fun h : List Command => h.foldl Switch.after ⟨[],.empty⟩
    Honest n.tools switch ∧ (∀ c ∈ n.bridge.toList, Text.isBlank c = false) ∧
    Passes State.calls n.pass ⟨{},.new .empty⟩ (twice n uplink) ∧
    (∃ before, (twice n uplink).calls = before ++ [addPort "" "eth0"] ∧
      (switch before).ports.get? "eth0" = some n.bridge) ∧
    times n.tools (addPort "" "eth0") Output.success [] (twice n uplink).calls = 2 := by
  intro n switch
  have calls : (twice n uplink).calls = [brExists "",addBridge "",portToBr "eth0",addPort "" "eth0",
      brExists "",portToBr "eth0"] ++ [addPort "" "eth0"] := by decide +kernel
  have unblank : ∀ c ∈ n.bridge.toList, Text.isBlank c = false := fun c member => absurd member List.not_mem_nil
  refine ⟨Switch.honest_tools ⟨[],.empty⟩,unblank,passes_twice n uplink,⟨_,calls,by decide +kernel⟩,?_⟩
  rw [calls]
  decide +kernel

end Hostkeeper.Network
