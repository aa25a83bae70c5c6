import Hostkeeper.Network

/-! Passes as lists of steps. What is run in the steps depends on the answers to queries only, and what is
reported on the answers to changes only. -/
namespace Hostkeeper.Network

/-- A change, or a query and the change to make unless its answer settles the step. -/
inductive Step where
  | change (c : Command)
  | ensure (query : Command) (settles : Output → Bool) (c : Command)

/-- A command that a step has run: a change and its answer, or a query and whether its answer settled the step. -/
inductive Event where
  | changed (c : Command) (answer : Output)
  | asked (query : Command) (settled : Bool)

namespace Event

def command : Event → Command
  | .changed c _ => c
  | .asked query _ => query

def failure? : Event → Option CommandError
  | .changed c answer =>
    if answer.success then none
    else some ⟨c.text,(answer.code.map toString).getD "none",Text.trim answer.text⟩
  | .asked .. => none

def verdict? : Event → Option Bool
  | .changed .. => none
  | .asked _ settled => some settled

end Event

def commands (events : List Event) : List Command := events.map Event.command

def failures (events : List Event) : List CommandError := events.filterMap Event.failure?

def verdicts (events : List Event) : List Bool := events.filterMap Event.verdict?

@[simp] theorem commands_append (first second : List Event) :
    commands (first ++ second) = commands first ++ commands second := List.map_append

@[simp] theorem failures_append (first second : List Event) :
    failures (first ++ second) = failures first ++ failures second := List.filterMap_append

@[simp] theorem verdicts_append (first second : List Event) :
    verdicts (first ++ second) = verdicts first ++ verdicts second := List.filterMap_append

section Running

variable (tools : Tools)

def Step.events (history : List Command) : Step → List Event
  | .change c => [.changed c (tools history c).output]
  | .ensure query settles c =>
    if settles (tools history query).output then [.asked query true]
    else [.asked query false,.changed c (tools (history ++ [query]) c).output]

/-- Steps one after another, every one of them whatever became of the others. -/
def events (history : List Command) : List Step → List Event
  | [] => []
  | step :: rest => step.events tools history ++ events (history ++ commands (step.events tools history)) rest

def groups (history : List Command) : List (List Step) → List (List Event)
  | [] => []
  | steps :: rest => events tools history steps :: groups (history ++ commands (events tools history steps)) rest

theorem events_append (history : List Command) (first second : List Step) :
    events tools history (first ++ second) = events tools history first ++
      events tools (history ++ commands (events tools history first)) second := by
  induction first generalizing history with
  | nil => simp [events,commands]
  | cons step rest ih => simp only [List.cons_append,events,ih,commands_append,List.append_assoc]

theorem flatten_groups (history : List Command) (steps : List (List Step)) :
    (groups tools history steps).flatten = events tools history steps.flatten := by
  induction steps generalizing history with
  | nil => rfl
  | cons first rest ih => rw [groups,List.flatten_cons,ih,List.flatten_cons,events_append]

end Running

/-- The commands of steps when their queries come out like this. -/
def script : List Bool → List Step → List Command
  | _, [] => []
  | verdicts, .change c :: rest => c :: script verdicts rest
  | settled :: verdicts, .ensure query _ c :: rest =>
    (if settled then [query] else [query,c]) ++ script verdicts rest
  | [], .ensure .. :: _ => []

theorem script_events (tools : Tools) (history : List Command) (steps later : List Step) (more : List Bool) :
    script (verdicts (events tools history steps) ++ more) (steps ++ later) =
      commands (events tools history steps) ++ script more later := by
  induction steps generalizing history with
  | nil => rfl
  | cons step rest ih =>
    rw [events,verdicts_append,commands_append,List.append_assoc,List.cons_append]
    cases step with
    | change c => exact congrArg (c :: ·) (ih _)
    | ensure query settles c =>
      rw [Step.events]
      split
      · exact congrArg (query :: ·) (ih _)
      · exact congrArg (query :: c :: ·) (ih _)

theorem commands_eq_script (tools : Tools) (history : List Command) (steps : List Step) :
    commands (events tools history steps) = script (verdicts (events tools history steps)) steps := by
  simpa [script] using (script_events tools history steps [] []).symm

section Hosts

/-- Failures and a host that steps have led to. -/
structure Follows (tools : Tools) (steps : List Step) (h : Host) (result : List CommandError × Host) : Prop where
  calls_eq : result.2.calls = h.calls ++ commands (events tools h.calls steps)
  failures_eq : result.1 = failures (events tools h.calls steps)

variable {tools : Tools} {h : Host}

theorem Follows.nil (tools : Tools) (h : Host) : Follows tools [] h ([],h) := ⟨by simp [events,commands],rfl⟩

theorem Follows.append {first second : List Step} {errors more : List CommandError} {middle after : Host}
    (a : Follows tools first h (errors,middle)) (b : Follows tools second middle (more,after)) :
    Follows tools (first ++ second) h (errors ++ more,after) := by
  obtain ⟨calls,rfl⟩ := a
  obtain ⟨later,rfl⟩ := b
  dsimp only at calls later
  refine ⟨?_,?_⟩
  · rw [events_append,commands_append,← List.append_assoc,← calls]
    exact later
  · rw [events_append,failures_append,← calls]

def errors {α : Type} : Except CommandError α → List CommandError
  | .ok _ => []
  | .error e => [e]

theorem errors_map {α β : Type} (f : α → β) (result : Except CommandError α) :
    errors (result.map f) = errors result := by
  cases result <;> rfl

theorem errors_check (c : Command) (answer : Output) : errors (answer.check c) = failures [.changed c answer] := by
  unfold Output.check failures
  by_cases success : answer.success
  · simp [success,errors,Event.failure?]
  · simp [success,errors,Event.failure?]

theorem follows_change (tools : Tools) (h : Host) (c : Command) :
    Follows tools [.change c] h (errors (h.runChecked tools c).1,(h.runChecked tools c).2) :=
  ⟨rfl,errors_check c (tools h.calls c).output⟩

theorem follows_runAll (tools : Tools) (changes : List Command) (h : Host) :
    Follows tools (changes.map .change) h (runAll tools changes h) := by
  induction changes generalizing h with
  | nil => exact .nil tools h
  | cons c rest ih =>
    have split : runAll tools (c :: rest) h = (errors (h.runChecked tools c).1 ++
        (runAll tools rest (h.runChecked tools c).2).1,(runAll tools rest (h.runChecked tools c).2).2) := by
      rw [runAll]
      rcases h.runChecked tools c with ⟨_ | _,_⟩ <;> rfl
    rw [split]
    exact (follows_change tools h c).append (ih _)

def ensure (tools : Tools) (query : Command) (settles : Output → Bool) (c : Command) (h : Host) :
    Except CommandError Unit × Host :=
  let (answer,h) := h.run tools query
  if settles answer then (.ok (),h)
  else
    let (result,h) := h.runChecked tools c
    (result.map fun _ => (),h)

theorem ensureBridge_eq (n : Network) (h : Host) : n.ensureBridge h =
    ensure n.tools (vsctl ["br-exists",n.bridge]) Output.success (vsctl ["--may-exist","add-br",n.bridge]) h := rfl

theorem ensurePort_eq (n : Network) (name : String) (h : Host) : n.ensurePort name h =
    ensure n.tools (vsctl ["port-to-br",name]) (fun o => o.success && o.lines.contains n.bridge)
      (vsctl ["--may-exist","add-port",n.bridge,name]) h := rfl

theorem follows_ensure (tools : Tools) (query : Command) (settles : Output → Bool) (c : Command) (h : Host) :
    Follows tools [.ensure query settles c] h
      (errors (ensure tools query settles c h).1,(ensure tools query settles c h).2) := by
  by_cases settled : settles (tools h.calls query).output
  · have done : ensure tools query settles c h = (.ok (),(h.run tools query).2) := if_pos settled
    have ran : events tools h.calls [.ensure query settles c] = [.asked query true] := by
      rw [events,Step.events,if_pos settled]
      rfl
    rw [done]
    exact ⟨by rw [ran]; rfl,by rw [ran]; rfl⟩
  · let changed := (h.run tools query).2.runChecked tools c
    have done : ensure tools query settles c h = (changed.1.map fun _ => (),changed.2) := if_neg settled
    have ran : events tools h.calls [.ensure query settles c] =
        [.asked query false,.changed c (tools (h.calls ++ [query]) c).output] := by
      rw [events,Step.events,if_neg settled]
      rfl
    rw [done]
    refine ⟨?_,?_⟩
    · rw [ran]
      change (h.calls ++ [query]) ++ [c] = h.calls ++ [query,c]
      rw [List.append_assoc]
      rfl
    · rw [ran,errors_map]
      exact errors_check c (tools (h.calls ++ [query]) c).output

end Hosts

end Hostkeeper.Network
