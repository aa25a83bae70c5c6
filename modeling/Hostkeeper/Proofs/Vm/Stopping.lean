import Hostkeeper.Proofs.Vm.Passes

/-! Stopping one machine. A live process is asked to exit first and killed only if it has not exited when
its time is over; whatever comes of it, no other machine takes notice. -/
namespace Hostkeeper.Supervisor

open State

variable {v : Supervisor} {s : State} {name : String}

theorem stop_of_tracked {t : Tracked} {p : Process} (tracked : s.tracked.get? name = some t)
    (found : s.processes[t.process]? = some p) :
    (p.hasExited s.now = true → v.stop name s = (some .alreadyExited,s.untrack name)) ∧
    (p.hasExited s.now = false → ∃ q, (v.stop name s).2.processes[t.process]? = some q ∧
      Escalates v.stopTimeout s.now p (v.stop name s).1 q (v.stop name s).2.now) := by
  have inside : t.process < s.processes.length := (List.getElem?_eq_some_iff.mp found).1
  have outcome := stops v name s
  generalize v.stop name s = result at outcome ⊢
  cases outcome with
  | untracked absent => simp [process?,tracked,found] at absent
  | gone tracked' found' exited =>
    cases tracked.symm.trans tracked'
    cases found.symm.trans found'
    refine ⟨fun _ => rfl,fun alive => ?_⟩
    cases alive.symm.trans exited
  | @ended _ _ q _ _ tracked' found' alive _ _ _ run =>
    cases tracked.symm.trans tracked'
    cases found.symm.trans found'
    refine ⟨fun exited => ?_,fun _ => ⟨q,List.getElem?_set_self inside,run⟩⟩
    cases alive.symm.trans exited
  | @stuck _ _ q tracked' found' alive _ _ run =>
    cases tracked.symm.trans tracked'
    cases found.symm.trans found'
    refine ⟨fun exited => ?_,fun _ => ⟨q,List.getElem?_set_self inside,run⟩⟩
    cases alive.symm.trans exited

theorem stop_of_untracked (absent : s.tracked.get? name = none) : v.stop name s = (some .notTracked,s) := by
  have outcome := stops v name s
  generalize v.stop name s = result at outcome ⊢
  cases outcome with
  | untracked => rfl
  | gone tracked | ended tracked | stuck tracked => cases absent.symm.trans tracked

/-- A stop has an outcome unless the process cannot be killed. -/
theorem Escalates.returns {grace now time : Nat} {p q : Process} {outcome : Option StopOutcome}
    (run : Escalates grace now p outcome q time) (killable : p.killFails = false) : outcome ≠ none := by
  cases run with
  | graceful | forced => exact Option.some_ne_none _
  | stuck _ unkillable => cases killable.symm.trans unkillable

/-- How a stop goes depends on the name alone: nothing is asked of a process that is not tracked or has
exited, and a live one is asked to exit, and killed once its time is over and no earlier. A stop that ends
untracks the name, and no stop touches another machine. -/
theorem stop_escalates (reached : Reached v s) (name : String) :
    (s.tracked.get? name = none → v.stop name s = (some .notTracked,s)) ∧
    (∀ t, s.tracked.get? name = some t → ∃ p, s.processes[t.process]? = some p ∧
      (p.hasExited s.now = true → v.stop name s = (some .alreadyExited,s.untrack name)) ∧
      (p.hasExited s.now = false → ∃ q, (v.stop name s).2.processes[t.process]? = some q ∧
        Escalates v.stopTimeout s.now p (v.stop name s).1 q (v.stop name s).2.now ∧
        (p.killFails = false → (v.stop name s).1 ≠ none))) ∧
    ((v.stop name s).1 ≠ none → (v.stop name s).2.tracked.get? name = none) ∧
    ∀ other, name ≠ other → Untouched other s (v.stop name s).2 ∧
      (v.stop name s).2.tracked.get? other = s.tracked.get? other := by
  have owned := owned_reached reached
  refine ⟨stop_of_untracked,fun t tracked => ?_,untracked_stop owned,fun other apart => ?_⟩
  · obtain ⟨p,found,_⟩ := owned name t tracked
    obtain ⟨gone,alive⟩ := stop_of_tracked (v := v) tracked found
    refine ⟨p,found,gone,fun awake => ?_⟩
    obtain ⟨q,after,run⟩ := alive awake
    exact ⟨q,after,run,run.returns⟩
  · exact ⟨untouched_stop owned apart,tracked_perform (.stop name) apart⟩

/-- A machine that is up and takes no notice when it is asked to exit. -/
def unheeding : State := Operation.perform stubbornly (.new .empty) (.start guest)

theorem unheeding_guest_is_killed :
    let r := stubbornly.stop "guest" unheeding
    r.1 = some .forced ∧ r.2.now = 1000 ∧ r.2.tracked.get? "guest" = none ∧
      (r.2.processes[0]?).map (·.calls) = some [(0,.terminate),(0,.wait),(1000,.kill),(1000,.wait)] := by
  have reached : Reached stubbornly unheeding := .operation (.start guest) (.new .empty)
  obtain ⟨_,tracked,untracks,_⟩ := stop_escalates reached "guest"
  obtain ⟨p,found,_,alive⟩ := tracked ⟨0,false⟩ (by decide +kernel)
  have awake : p.hasExited unheeding.now = false := by
    cases found
    rfl
  obtain ⟨q,after,run,returns⟩ := alive awake
  have forced : (stubbornly.stop "guest" unheeding).1 = some .forced := by decide +kernel
  refine ⟨forced,by decide +kernel,untracks (by rw [forced]; simp),?_⟩
  rw [after,forced] at *
  cases run with
  | forced _ _ asked =>
    cases found
    exact congrArg some asked

end Hostkeeper.Supervisor
