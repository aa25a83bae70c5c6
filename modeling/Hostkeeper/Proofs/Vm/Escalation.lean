import Hostkeeper.Proofs.Vm.Process
import Hostkeeper.Vm.Supervisor

/-! What a live process is asked while it is stopped, and when: to exit, then to be waited for as long
as it has time to exit, and only if that was in vain to be killed and waited for again. -/
namespace Hostkeeper

namespace Process

variable (p : Process) (now : Nat)

theorem calls_terminate : (p.terminate now).calls = p.calls ++ [(now,.terminate)] := by
  unfold terminate
  split <;> rfl

theorem calls_kill : (p.kill now).calls = p.calls ++ [(now,.kill)] := by
  unfold kill
  split <;> rfl

theorem calls_wait : (p.wait now).2.calls = p.calls ++ [(now,.wait)] := by
  unfold wait
  split
  · rfl
  · split <;> rfl

theorem calls_asked : ((p.terminate now).wait now).2.calls = p.calls ++ [(now,.terminate),(now,.wait)] := by
  rw [calls_wait,calls_terminate,List.append_assoc]
  rfl

theorem calls_forced : ((p.kill now).wait now).2.calls = p.calls ++ [(now,.kill),(now,.wait)] := by
  rw [calls_wait,calls_kill,List.append_assoc]
  rfl

theorem waits_terminate :
    (p.terminate now).failingWaits = p.failingWaits ∧ (p.terminate now).failsAfter = p.failsAfter := by
  unfold terminate
  split <;> exact ⟨rfl,rfl⟩

/-- A process that is alive does not exit before it is asked to. -/
theorem le_exit_terminate {p : Process} {now exit : Nat} (alive : p.hasExited now = false)
    (exits : (p.terminate now).exitAt = some exit) : now ≤ exit := by
  have before (time : Nat) (found : p.exitAt = some time) : now ≤ time := by
    refine Nat.le_of_not_lt fun early => ?_
    have exited := (hasExited_iff p now).mpr ⟨time,found,Nat.le_of_lt early⟩
    rw [alive] at exited
    cases exited
  unfold terminate at exits
  split at exits
  next delay _ =>
    simp only [exitBy,asked,Option.some.injEq] at exits
    cases found : p.exitAt with
    | none =>
      rw [found] at exits
      exact exits ▸ Nat.le_add_right now delay
    | some time =>
      rw [found] at exits
      exact exits ▸ Nat.le_min.mpr ⟨before time found,Nat.le_add_right now delay⟩
  next => exact before exit exits
  next => exact before exit exits

end Process

namespace Supervisor

/-- The wait for the process, once it was asked to exit, succeeds before its time is over. -/
def ExitsInTime (grace now : Nat) (p : Process) (exit : Nat) : Prop :=
  p.failingWaits = 0 ∧ (p.terminate now).exitAt = some exit ∧ exit ≤ now + grace

/-- When a wait that does not succeed in time is over: by its failure, or because the time is. -/
def givenUpAt (grace now : Nat) (p : Process) : Nat :=
  now + if p.failingWaits = 0 then grace else min p.failsAfter grace

/-- The ways to stop a live process, with the process afterwards and the time when that is. Only where
nothing ends the process it takes forever. -/
inductive Escalates (grace now : Nat) (p : Process) : Option StopOutcome → Process → Nat → Prop
  | graceful {q exit} (inTime : ExitsInTime grace now p exit)
      (asked : q.calls = p.calls ++ [(now,.terminate),(now,.wait)]) : Escalates grace now p (some .graceful) q exit
  | forced {q time} (late : ∀ exit, ¬ExitsInTime grace now p exit) (later : givenUpAt grace now p ≤ time)
      (asked : q.calls = p.calls ++ [(now,.terminate),(now,.wait),
        (givenUpAt grace now p,.kill),(givenUpAt grace now p,.wait)]) :
      Escalates grace now p (some .forced) q time
  | stuck {q} (late : ∀ exit, ¬ExitsInTime grace now p exit) (unkillable : p.killFails = true)
      (asked : q.calls = p.calls ++ [(now,.terminate),(now,.wait),
        (givenUpAt grace now p,.kill),(givenUpAt grace now p,.wait)]) :
      Escalates grace now p none q now

/-- How the time to exit ends, told from the process. -/
theorem graceEnd_terminate {p : Process} {now : Nat} (alive : p.hasExited now = false) (grace : Nat) :
    (∃ exit, ExitsInTime grace now p exit ∧
      graceEnd now grace ((p.terminate now).wait now).1 = (exit,true)) ∨
    (∀ exit, ¬ExitsInTime grace now p exit) ∧
      graceEnd now grace ((p.terminate now).wait now).1 = (givenUpAt grace now p,false) := by
  obtain ⟨waits,delay⟩ := p.waits_terminate now
  by_cases failing : p.failingWaits = 0
  · have works : ¬(p.terminate now).failingWaits > 0 := by omega
    have given : givenUpAt grace now p = now + grace := by rw [givenUpAt,if_pos failing]
    cases exits : (p.terminate now).exitAt with
    | none =>
      refine .inr ⟨fun exit inTime => ?_,?_⟩
      · cases exits.symm.trans inTime.2.1
      · simp [Process.wait,Process.asked,works,exits,graceEnd,given]
    | some exit =>
      have order : max exit now = exit := Nat.max_eq_left (Process.le_exit_terminate alive exits)
      by_cases inTime : exit ≤ now + grace
      · refine .inl ⟨exit,⟨failing,exits,inTime⟩,?_⟩
        simp [Process.wait,Process.asked,works,exits,graceEnd,order,inTime]
      · refine .inr ⟨fun other early => ?_,?_⟩
        · cases exits.symm.trans early.2.1
          exact inTime early.2.2
        · simp [Process.wait,Process.asked,works,exits,graceEnd,order,inTime,given]
  · have fails : (p.terminate now).failingWaits > 0 := by omega
    refine .inr ⟨fun exit inTime => failing inTime.1,?_⟩
    simp [Process.wait,Process.asked,fails,graceEnd,givenUpAt,failing,delay,Nat.add_min_add_left]

end Supervisor

end Hostkeeper
