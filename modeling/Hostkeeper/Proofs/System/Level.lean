import Hostkeeper.Proofs.System.Settings
import Mathlib.Data.List.Induction

/-! The log level over many applications of settings. A control is asked for a level unless it is the one that it took
last. So after each application that has a level the control is at that level, unless it refused right then, and a level
that it refused is asked for again. -/
namespace Hostkeeper

/-- A level that a control was asked for, with its answer. -/
structure LevelCall where
  level : LogLevel
  answer : Except String Unit

namespace LevelCall

def taken? (c : LevelCall) : Option LogLevel :=
  match c.answer with
  | .ok () => some c.level
  | .error _ => none

def taken (calls : List LevelCall) : List LogLevel := calls.filterMap taken?

/-- The level that a control is at after some calls. One that it refuses leaves it where it is. -/
def levelAfter (start : LogLevel) (calls : List LevelCall) : LogLevel :=
  calls.foldl (fun level c => c.taken?.getD level) start

@[simp] theorem taken_append (calls more : List LevelCall) : taken (calls ++ more) = taken calls ++ taken more :=
  List.filterMap_append

@[simp] theorem taken_ok (level : LogLevel) : taken [⟨level,.ok ()⟩] = [level] := rfl

@[simp] theorem taken_error (level : LogLevel) (e : String) : taken [⟨level,.error e⟩] = [] := rfl

theorem levelAfter_eq (start : LogLevel) (calls : List LevelCall) :
    levelAfter start calls = (taken calls).getLast?.getD start := by
  induction calls using List.reverseRecOn with
  | nil => rfl
  | append_singleton calls c ih =>
    obtain ⟨level,_ | _⟩ := c
    · rw [taken_append,taken_error,List.append_nil,← ih]
      simp [levelAfter,taken?]
    · rw [taken_append,taken_ok,List.getLast?_concat]
      simp [levelAfter,taken?]

end LevelCall

namespace SystemApplier

open LevelCall

/-- The settings of one application, the report that it adds to, and the host that it finds. -/
structure Application where
  settings : SystemSettings
  report : SyncReport
  host : Host

def Application.unleveled (x : Application) : Application :=
  {x with settings := {x.settings with loggingLevel := none}}

variable (a : SystemApplier)

def run (s : LevelState) (x : Application) : SyncReport × LevelState × Host :=
  a.apply x.settings x.report s x.host

/-- The call that an application makes of the control, which counts it. -/
def call? (s : LevelState) (x : Application) : Option LevelCall :=
  match x.settings.loggingLevel, a.control with
  | some level, some control =>
    if (a.run s x).2.1.asked = s.asked then none else some ⟨level,control s.asked level⟩
  | _, _ => none

/-- The calls that a new applier makes in some applications, and the state that they leave. -/
def played (xs : List Application) : List LevelCall × LevelState :=
  xs.foldl (fun past x => (past.1 ++ (a.call? past.2 x).toList,(a.run past.2 x).2.1)) ([],{})

@[simp] theorem played_concat (xs : List Application) (x : Application) : a.played (xs ++ [x]) =
    ((a.played xs).1 ++ (a.call? (a.played xs).2 x).toList,(a.run (a.played xs).2 x).2.1) := by
  rw [played,List.foldl_append]
  rfl

/-- What an application does about a level: the call that it makes, what it adds to the report, and the state
after it. -/
inductive LevelStep (control : LevelControl) (s : LevelState) :
    Option LogLevel → Option LevelCall → SyncReport → LevelState → Prop
  | unset : LevelStep control s none none {} s
  | held {level} (same : s.applied = some level) : LevelStep control s (some level) none {} s
  | taken {level} (differs : s.applied ≠ some level) (answer : control s.asked level = .ok ()) :
      LevelStep control s (some level) (some ⟨level,.ok ()⟩) {applied := 1}
        ⟨s.asked + 1,some level,s.taken ++ [level]⟩
  | refused {level e} (differs : s.applied ≠ some level) (answer : control s.asked level = .error e) :
      LevelStep control s (some level) (some ⟨level,.error e⟩) {failed := [⟨"System.logging_level",e⟩]}
        {s with asked := s.asked + 1}

variable {a} {control : LevelControl} {s : LevelState} {x : Application}

theorem run_level : (a.run s x).2.1 = (a.applyLevel x.settings {} s).2 := by
  rw [run,apply_eq]

theorem run_report : (a.run s x).1 = (a.run s x.unleveled).1.merge (a.applyLevel x.settings {} s).1 := by
  have unset : a.applyLevel x.unleveled.settings {} s = ({},s) := applyLevel_unset a _ _ _ rfl
  have named : a.applyHostname x.unleveled.settings {} x.host = a.applyHostname x.settings {} x.host := rfl
  have zoned (h : Host) : a.applyTimezone x.unleveled.settings {} h = a.applyTimezone x.settings {} h := rfl
  rw [run,run,apply_eq,apply_eq]
  simp only [Application.unleveled] at unset named zoned ⊢
  rw [unset,named,zoned]
  simp only [SyncReport.merge_empty,SyncReport.merge_assoc]

theorem levelStep (controlled : a.control = some control) (s : LevelState) (x : Application) :
    LevelStep control s x.settings.loggingLevel (a.call? s x) (a.applyLevel x.settings {} s).1 (a.run s x).2.1 := by
  rw [call?,run_level,controlled,applyLevel,controlled]
  cases wanted : x.settings.loggingLevel with
  | none => exact .unset
  | some level =>
    dsimp only
    by_cases same : s.applied = some level
    · simp only [if_pos same,if_true]
      exact .held same
    · simp only [if_neg same]
      cases answer : control s.asked level with
      | ok done =>
        have step := LevelStep.taken same answer
        simpa [SyncReport.recordApplied] using step
      | error e =>
        have step := LevelStep.refused same answer
        simpa [SyncReport.recordFailure] using step

structure Counts (calls : List LevelCall) (s : LevelState) : Prop where
  asked : s.asked = calls.length
  applied : s.applied = (taken calls).getLast?
  taken : s.taken = LevelCall.taken calls

namespace LevelStep

variable {wanted : Option LogLevel} {call : Option LevelCall} {added : SyncReport} {s' : LevelState} {level : LogLevel}

/-- A call is made exactly for a level other than the one that was taken last. -/
theorem call_iff (step : LevelStep control s wanted call added s') (c : LevelCall) :
    call = some c ↔ wanted = some c.level ∧ s.applied ≠ some c.level ∧ c.answer = control s.asked c.level := by
  obtain ⟨level,answer⟩ := c
  cases step with
  | unset => simp
  | held same =>
    refine ⟨nofun,?_⟩
    rintro ⟨wanted,differs,-⟩
    exact absurd (same.trans wanted) differs
  | taken differs answered | refused differs answered =>
    constructor
    · intro made
      cases made
      exact ⟨rfl,differs,answered.symm⟩
    · rintro ⟨wanted,-,answer⟩
      cases wanted
      rw [answered] at answer
      exact answer ▸ rfl

theorem merge_added (step : LevelStep control s wanted call added s') (r : SyncReport) :
    r.merge added = call.elim r fun c => r.record "System.logging_level" c.answer := by
  cases step with
  | unset | held => exact r.merge_empty
  | taken => exact r.recordApplied_eq.symm
  | refused => exact (r.recordFailure_eq _ _).symm

theorem counts {calls : List LevelCall} (step : LevelStep control s wanted call added s') (counts : Counts calls s) :
    Counts (calls ++ call.toList) s' := by
  obtain ⟨asked,applied,taken⟩ := counts
  cases step with
  | unset | held => simpa using ⟨asked,applied,taken⟩
  | taken => exact ⟨by simp [asked],by simp,by simp [taken]⟩
  | refused => exact ⟨by simp [asked],by simp [applied],by simp [taken]⟩

/-- A level that is wanted is the one that was taken last, unless it was refused just now. -/
theorem applied_eq (step : LevelStep control s (some level) call added s')
    (working : ∀ c, call = some c → c.answer = .ok ()) : s'.applied = some level := by
  cases step with
  | held same => exact same
  | taken => rfl
  | refused => exact nomatch working _ rfl

theorem applied_of_refused {c : LevelCall} {e : String} (step : LevelStep control s wanted (some c) added s')
    (refused : c.answer = .error e) : s'.applied ≠ some c.level := by
  cases step with
  | taken => cases refused
  | refused differs => exact differs

theorem applied_ne (step : LevelStep control s wanted call added s') (differs : s.applied ≠ some level)
    (other : wanted ≠ some level) : s'.applied ≠ some level := by
  cases step with
  | unset | held | refused => exact differs
  | taken => exact other

theorem unique {call' : Option LevelCall} {added' : SyncReport} {s'' : LevelState}
    (one : LevelStep control s wanted call added s') (other : LevelStep control s wanted call' added' s'') :
    call = call' ∧ s' = s'' := by
  have calls : call = call' := Option.ext fun c => (one.call_iff c).trans (other.call_iff c).symm
  refine ⟨calls,?_⟩
  subst calls
  cases one with
  | unset | held =>
    cases other
    all_goals rfl
  | taken | refused =>
    cases other
    rfl

end LevelStep

theorem counts_played (controlled : a.control = some control) (xs : List Application) :
    Counts (a.played xs).1 (a.played xs).2 := by
  induction xs using List.reverseRecOn with
  | nil => exact ⟨rfl,rfl,rfl⟩
  | append_singleton xs x ih =>
    rw [played_concat]
    exact (levelStep controlled _ x).counts ih

/-- A level that was not taken stays so while it is not wanted. -/
theorem untaken_played (controlled : a.control = some control) {level : LogLevel} {before : List Application}
    (differs : (a.played before).2.applied ≠ some level) (between : List Application)
    (others : ∀ y ∈ between, y.settings.loggingLevel ≠ some level) :
    (a.played (before ++ between)).2.applied ≠ some level := by
  induction between using List.reverseRecOn with
  | nil => simpa using differs
  | append_singleton between y ih =>
    rw [← List.append_assoc,played_concat]
    have untaken := ih fun z member => others z (List.mem_append_left _ member)
    exact (levelStep controlled _ y).applied_ne untaken (others y (by simp))

theorem step_congr {b : SystemApplier} {y : Application} (controlled : a.control = some control)
    (also : b.control = some control) (same : y.settings.loggingLevel = x.settings.loggingLevel) (s : LevelState) :
    b.call? s y = a.call? s x ∧ (b.run s y).2.1 = (a.run s x).2.1 := by
  have one := levelStep controlled s x
  have other := levelStep also s y
  rw [same] at other
  exact other.unique one

theorem played_congr {b : SystemApplier} (controlled : a.control = some control) (also : b.control = some control)
    {xs ys : List Application} (same : ys.map (·.settings.loggingLevel) = xs.map (·.settings.loggingLevel)) :
    b.played ys = a.played xs := by
  induction xs using List.reverseRecOn generalizing ys with
  | nil =>
    rw [List.map_eq_nil_iff.mp same]
    rfl
  | append_singleton xs x ih =>
    rw [List.map_append] at same
    obtain ⟨earlier,last,rfl,first,final⟩ := List.map_eq_append_iff.mp same
    obtain ⟨y,rfl,level⟩ := List.map_eq_singleton_iff.mp final
    rw [played_concat,played_concat,ih first]
    obtain ⟨call,after⟩ := step_congr controlled also level (a.played xs).2
    rw [call,after]

/-- After any applications, the next one asks the control for its level exactly if that is not the level that was taken
last. The control is then at that level unless it refuses, and a level that it refuses is asked for by the next
application that has it. The report gains what the control answers and no more, and host names, time zones and hosts
have no part in any of it. -/
theorem level_follows_the_settings (controlled : a.control = some control) (before : List Application)
    (x : Application) :
    let calls := (a.played before).1
    let s := (a.played before).2
    let call := a.call? s x
    (s.asked = calls.length ∧ s.taken = taken calls) ∧
    (∀ c, call = some c ↔ x.settings.loggingLevel = some c.level ∧ (taken calls).getLast? ≠ some c.level ∧
      c.answer = control calls.length c.level) ∧
    (∀ start level, x.settings.loggingLevel = some level → (∀ c, call = some c → c.answer = .ok ()) →
      levelAfter start (calls ++ call.toList) = level) ∧
    (∀ c e, call = some c → c.answer = .error e → ∀ between y,
      (∀ z ∈ between, z.settings.loggingLevel ≠ some c.level) → y.settings.loggingLevel = some c.level →
      ∃ again, a.call? (a.played (before ++ x :: between)).2 y = some again ∧ again.level = c.level) ∧
    (a.run s x).1 = call.elim (a.run s x.unleveled).1 (fun c =>
      (a.run s x.unleveled).1.record "System.logging_level" c.answer) ∧
    ∀ (b : SystemApplier) (others : List Application) (y : Application), b.control = a.control →
      others.map (·.settings.loggingLevel) = before.map (·.settings.loggingLevel) →
      y.settings.loggingLevel = x.settings.loggingLevel →
      b.played others = a.played before ∧ b.call? s y = call ∧ (b.run s y).2.1 = (a.run s x).2.1 := by
  have counted := counts_played controlled before
  have step := levelStep controlled (a.played before).2 x
  refine ⟨⟨counted.asked,counted.taken⟩,fun c => ?_,fun start level carried working => ?_,?_,?_,?_⟩
  · rw [step.call_iff,counted.applied,counted.asked]
  · rw [carried] at step
    rw [levelAfter_eq,← (step.counts counted).applied,step.applied_eq working]
    rfl
  · intro c e made refused between y others carried
    rw [made] at step
    have untaken : (a.played (before ++ [x])).2.applied ≠ some c.level := by
      rw [played_concat]
      exact step.applied_of_refused refused
    have later := untaken_played controlled untaken between others
    rw [← List.append_cons] at later
    exact ⟨⟨c.level,control _ c.level⟩,((levelStep controlled _ y).call_iff _).mpr ⟨carried,later,rfl⟩,rfl⟩
  · rw [run_report,step.merge_added]
  · intro b others y shared levels same
    have also : b.control = some control := shared.trans controlled
    exact ⟨played_congr controlled also levels,step_congr controlled also same _⟩

/-- A control that refuses once, on a host where every command fails. -/
def waveringControl : LevelControl := fun asked _ => if asked = 1 then .error "busy" else .ok ()

def waveringApplier : SystemApplier := ⟨fun _ _ => ⟨⟨some 1,"denied"⟩,[]⟩,"/timezone",some waveringControl⟩

def leveled (level : Option LogLevel) : Application :=
  ⟨{hostname := some "edge1",loggingLevel := level},{},.new .empty⟩

theorem refused_level_is_asked_for_again :
    let past := waveringApplier.played ([some .warning,some .debug,none,some .warning].map leveled)
    let call := waveringApplier.call? past.2 (leveled (some .debug))
    waveringApplier.control = some waveringControl ∧ past.1 = [⟨.warning,.ok ()⟩,⟨.debug,.error "busy"⟩] ∧
    call = some ⟨.debug,.ok ()⟩ ∧ levelAfter .info (past.1 ++ call.toList) = .debug ∧
    (waveringApplier.run past.2 (leveled (some .debug))).1 =
      ⟨1,[],[⟨"System.hostname","`hostname edge1` failed (exit 1): denied"⟩]⟩ := by
  have past : (waveringApplier.played ([some .warning,some .debug,none,some .warning].map leveled)).1 =
      [⟨.warning,.ok ()⟩,⟨.debug,.error "busy"⟩] := by rfl
  have controlled : waveringApplier.control = some waveringControl := rfl
  obtain ⟨-,asks,levels,-,report,-⟩ := level_follows_the_settings controlled
    ([some .warning,some .debug,none,some .warning].map leveled) (leveled (some .debug))
  have call := (asks ⟨.debug,.ok ()⟩).mpr (by rw [past]; decide)
  refine ⟨controlled,past,call,levels .info .debug rfl fun c made => ?_,?_⟩
  · rw [call] at made
    cases made
    rfl
  · rw [report,call]
    decide +kernel

end SystemApplier

end Hostkeeper
