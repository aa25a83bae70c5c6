import Hostkeeper.Proofs.Reconcile.Execution
import Hostkeeper.Rehearsal.Probe

/-! When a loop that runs by itself stops. Whatever happens around it and however its ticks go, it stops because
of its flag and for no other reason; once the flag is set it takes three more steps at most, and begins no tick. -/
namespace Hostkeeper.LoopRun

open Memory

variable {δ : Type} {domain : Nat → Domain Session δ} {interval : Nat} {r after : LoopRun δ} {e : RunEvent}

section Phases

/-- A flag that was set while the loop was busy or blocked will still end its wait, and a wait that has ended for
good has done so as nobody is left to set the flag. -/
def Attentive (r : LoopRun δ) : Prop :=
  match r.phase with
  | .ticking _ _ | .waiting _ => r.flag.on = true → r.flag.unseen = true
  | .woken gone => gone = true → r.flag.abandoned = true
  | .testing | .stopped => True

theorem Steps.attentive (taken : Steps domain interval r e after) (attentive : r.Attentive) : after.Attentive := by
  cases taken with
  | stop | leave | resume | wakes => trivial
  | begins _ off => exact fun on => absurd on (Bool.eq_false_iff.mp off)
  | finish ticking => simpa only [Attentive,ticking] using attentive
  | heed => exact fun gone => nomatch gone
  | lose _ _ abandoned => exact fun _ => abandoned
  | around _ phase flag abandoned =>
    have unseen (before : r.flag.on = true → r.flag.unseen = true) :
        after.flag.on = true → after.flag.unseen = true := by
      obtain ⟨on,unseen⟩ | ⟨_,unseen⟩ := flag
      · rwa [on,unseen]
      · exact fun _ => unseen
    unfold Attentive at *
    rw [phase]
    split at attentive
    case h_1 | h_2 => exact unseen attentive
    case h_3 => exact abandoned ∘ attentive
    case h_4 | h_5 => trivial

theorem Reached.attentive (reached : Reached domain interval r) : r.Attentive := by
  induction reached with
  | start => trivial
  | step _ taken ih => exact (steps taken).attentive ih

theorem Steps.phase_of_ticking {began : Nat} {work : Work} (taken : Steps domain interval r e after)
    (ticking : r.phase = .ticking began work) (goes : e ≠ .finish) : after.phase = .ticking began work := by
  cases taken with
  | stop testing | begins testing => cases ticking.symm.trans testing
  | finish => exact absurd rfl goes
  | heed waiting | lose waiting | wakes waiting => cases ticking.symm.trans waiting
  | leave woken | resume woken => cases ticking.symm.trans woken
  | around _ phase => exact phase.trans ticking

theorem Steps.off_of_begins {began : Nat} {work : Work} (taken : Steps domain interval r e after)
    (ticking : after.phase = .ticking began work) : r.phase = .ticking began work ∨ e = .test ∧ r.flag.on = false := by
  cases taken with
  | stop | finish | heed | lose | leave | resume | wakes => cases ticking
  | begins _ off => exact .inr ⟨rfl,off⟩
  | around _ phase => exact .inl (phase.symm.trans ticking)

theorem isStopped_iff : r.isStopped = true ↔ r.phase = .stopped := by
  unfold isStopped
  split
  next stopped => simp [stopped]
  next goes => simpa using goes

theorem Steps.flag_of_stops (taken : Steps domain interval r e after) (attentive : r.Attentive)
    (stopped : after.phase = .stopped) :
    r.phase = .stopped ∨ r.flag.on = true ∨ r.flag.abandoned = true := by
  cases taken with
  | stop _ on => exact .inr (.inl on)
  | begins | finish | heed | lose | resume | wakes => cases stopped
  | leave woken ends =>
    rcases ends with gone | on
    · exact .inr (.inr (by simpa [Attentive,woken,gone] using attentive))
    · exact .inr (.inl on)
  | around _ phase => exact .inl (phase.symm.trans stopped)

end Phases

section Flagged

/-- How many steps are left to a loop at most once its flag is set. -/
def left (r : LoopRun δ) : Nat :=
  match r.phase with
  | .ticking _ _ => 3
  | .waiting _ => 2
  | .testing | .woken _ => 1
  | .stopped => 0

theorem Steps.on_of_on (taken : Steps domain interval r e after) (on : r.flag.on = true) (kept : e ≠ .set false) :
    after.flag.on = true := by
  cases taken with
  | stop | begins | finish | heed | lose | leave | resume | wakes => exact on
  | around _ _ flag =>
    obtain ⟨same,_⟩ | ⟨rfl,_⟩ := flag
    · exact same.trans on
    · exact Bool.of_not_eq_false fun off => kept (congrArg _ off)

theorem Steps.left_le (taken : Steps domain interval r e after) (on : r.flag.on = true) :
    [e].countP RunEvent.isOwn + after.left ≤ r.left := by
  cases taken with
  | stop testing => simp [left,testing,RunEvent.isOwn]
  | begins _ off | resume _ off => cases on.symm.trans off
  | finish ticking => simp [left,ticking,RunEvent.isOwn]
  | heed waiting | lose waiting => simp [left,waiting,RunEvent.isOwn]
  | leave woken => simp [left,woken,RunEvent.isOwn]
  | wakes waiting own => simp [left,waiting,own]
  | around foreign phase => simp [left,phase,foreign]

/-- What steps come to that are taken while the flag stays on. -/
structure Winds (r after : LoopRun δ) (events : List RunEvent) : Prop where
  on : after.flag.on = true
  few : events.countP RunEvent.isOwn + after.left ≤ r.left
  ticking : ∀ began work, after.phase = .ticking began work → r.phase = .ticking began work

theorem winds_of_play {events : List RunEvent} (on : r.flag.on = true) (kept : .set false ∉ events)
    (played : r.play domain interval events = some after) : Winds r after events := by
  induction events generalizing r with
  | nil =>
    cases played
    exact ⟨on,by simp,fun _ _ => id⟩
  | cons e rest ih =>
    obtain ⟨next,taken,played⟩ := Option.bind_eq_some_iff.mp played
    have first := steps taken
    have winds := ih (first.on_of_on on fun same => kept (same ▸ List.mem_cons_self ..))
      (fun member => kept (List.mem_cons_of_mem _ member)) played
    refine ⟨winds.on,?_,fun began work ticking => ?_⟩
    · have few := winds.few
      have one := first.left_le on
      rw [← List.singleton_append,List.countP_append]
      omega
    · obtain before | ⟨_,off⟩ := first.off_of_begins (winds.ticking began work ticking)
      · exact before
      · cases on.symm.trans off

theorem goes_on (attentive : r.Attentive) (on : r.flag.on = true) (goes : r.phase ≠ .stopped) :
    ∃ e, e.isOwn = true ∧ (r.step domain interval e).isSome = true := by
  match phase : r.phase with
  | .testing => exact ⟨.test,rfl,by simp [step,phase,on]⟩
  | .ticking began work => exact ⟨.finish,rfl,by simp [step,phase]⟩
  | .waiting due =>
    have unseen : r.flag.unseen = true := by
      simp only [Attentive,phase] at attentive
      exact attentive on
    exact ⟨.heed,rfl,by simp [step,phase,unseen]⟩
  | .woken gone => exact ⟨.decide,rfl,by simp [step,phase]⟩
  | .stopped => exact absurd phase goes

/-- Ticks come to their end, and begin only while the flag is off. The loop stops only when the flag is on or
nobody is left to set it; once the flag is on and stays on, it takes `left` steps at most, begins no tick, and
unless it has stopped has a step to take. -/
theorem run_heeds_its_flag (domain : Nat → Domain Session δ) (interval : Nat) (r : LoopRun δ)
    (reached : Reached domain interval r) :
    (∀ began work, r.phase = .ticking began work →
      r.step domain interval .finish = some {r with
        loop := (r.loop.endTick (domain began) work).2
        phase := .waiting (r.now + interval)} ∧
      ∀ e after, r.step domain interval e = some after → e ≠ .finish → after.phase = .ticking began work) ∧
    (∀ e after began work, r.step domain interval e = some after → after.phase = .ticking began work →
      r.phase = .ticking began work ∨ e = .test ∧ r.flag.on = false) ∧
    (∀ e after, r.step domain interval e = some after → after.isStopped = true →
      r.isStopped = true ∨ r.flag.on = true ∨ r.flag.abandoned = true) ∧
    (r.flag.on = true → ∀ events after, .set false ∉ events → r.play domain interval events = some after →
      events.countP RunEvent.isOwn + after.left ≤ r.left ∧
      (∀ began work, after.phase = .ticking began work → r.phase = .ticking began work) ∧
      (after.isStopped = true ∨ ∃ e, e.isOwn = true ∧ (after.step domain interval e).isSome = true)) := by
  refine ⟨fun began work ticking => ⟨?_,?_⟩,?_,?_,?_⟩
  · simp only [step,ticking]
  · intro e after taken goes
    exact (steps taken).phase_of_ticking ticking goes
  · intro e after began work taken ticking
    exact (steps taken).off_of_begins ticking
  · intro e after taken stopped
    rw [isStopped_iff] at *
    exact (steps taken).flag_of_stops reached.attentive stopped
  · intro on events after kept played
    have winds := winds_of_play on kept played
    refine ⟨winds.few,winds.ticking,?_⟩
    rw [isStopped_iff]
    by_cases stopped : after.phase = .stopped
    · exact .inl stopped
    · exact .inr (goes_on (reached.play played).attentive winds.on stopped)

def probe : Nat → Domain Session (List Rehearsal.Note) := Rehearsal.Probe.domain ⟨["Interface"],true,[],[],none⟩

/-- A loop that is about to make its first round, over a store that fails once. -/
def fresh : LoopRun (List Rehearsal.Note) :=
  start (.new ⟨(Database.new ["Interface"]).failNextRuns 1,⟨.empty,0,0⟩⟩ []) 0 ⟨false,false,false⟩

/-- The first tick fails; in the second one the flag is set, taken back and set again, and the store changes. -/
def interruption : List RunEvent :=
  [.test,.finish,.later 5,.timeout,.test,.set true,.set false,.set true,.others Database.bump]

/-- After that pass the flag or the change can end the wait. -/
theorem interrupted_pass_is_the_last : ∃ r, fresh.play probe 5 interruption = some r ∧ r.flag.on = true ∧
    ∀ events ∈ [[.finish,.heed,.decide],[.finish,.news,.test]], ∃ after, r.play probe 5 events = some after ∧
      after.isStopped = true ∧ after.left = 0 ∧ after.loop.state.map (·.version) = [0] := by
  obtain ⟨r,played⟩ : ∃ r, fresh.play probe 5 interruption = some r := ⟨_,rfl⟩
  have reached : Reached probe 5 r := (Reached.start ..).play played
  obtain ⟨_,_,_,winds⟩ := run_heeds_its_flag probe 5 r reached
  have on : r.flag.on = true ∧ r.left = 3 := by
    cases played
    exact ⟨rfl,rfl⟩
  refine ⟨r,played,on.1,fun events member => ?_⟩
  simp only [List.mem_cons,List.not_mem_nil,or_false] at member
  have own : .set false ∉ events ∧ events.countP RunEvent.isOwn = 3 := by
    rcases member with rfl | rfl <;> exact ⟨by simp,rfl⟩
  obtain ⟨after,through,stopped,noted⟩ : ∃ after, r.play probe 5 events = some after ∧
      after.isStopped = true ∧ after.loop.state.map (·.version) = [0] := by
    cases played
    rcases member with rfl | rfl <;> exact ⟨_,rfl,rfl,rfl⟩
  have few := (winds on.1 events after own.1 through).1
  exact ⟨after,through,stopped,by omega,noted⟩

end Flagged

end Hostkeeper.LoopRun
