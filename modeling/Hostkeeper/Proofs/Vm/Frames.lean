import Hostkeeper.Proofs.Vm.Stopping

/-! What an action for one machine leaves as it is for another, and what a series of stops comes to, machine by
machine. -/
namespace Hostkeeper.Supervisor

open State

variable {v : Supervisor} {s t : State} {name : String}

section Frames

/-- The processes of a name are as they were, but for one of them. -/
def SameExcept (name : String) (exempt : Option Nat) (s after : State) : Prop :=
  ∀ (i : Nat) (p : Process), p.name = name → some i ≠ exempt → (after.processes[i]? = some p ↔ s.processes[i]? = some p)

theorem SameExcept.of_eq {after : State} (same : after.processes = s.processes) (exempt : Option Nat) :
    SameExcept name exempt s after := by
  intro i p _ _
  rw [same]

theorem SameExcept.trans {after : State} {exempt : Option Nat} (first : SameExcept name exempt s t)
    (second : SameExcept name exempt t after) : SameExcept name exempt s after :=
  fun i p named other => (second i p named other).trans (first i p named other)

/-- Nothing is different for a name: it is tracked as before, and its processes are the same. -/
structure Alike (name : String) (s after : State) : Prop where
  tracked : after.tracked.get? name = s.tracked.get? name
  processes : SameExcept name none s after

theorem Alike.refl (name : String) (s : State) : Alike name s s := ⟨rfl,.of_eq rfl _⟩

theorem Alike.trans {after : State} (first : Alike name s t) (second : Alike name t after) : Alike name s after :=
  ⟨second.tracked.trans first.tracked,first.processes.trans second.processes⟩

theorem Alike.sameExcept (alike : Alike name s t) (exempt : Option Nat) : SameExcept name exempt s t :=
  fun i p named _ => alike.processes i p named (Option.some_ne_none i)

theorem Alike.process? (alike : Alike name s t) (owned : Owned s) : t.process? name = s.process? name := by
  unfold State.process?
  rw [alike.tracked]
  cases tracked : s.tracked.get? name with
  | none => rfl
  | some entry =>
    obtain ⟨p,found,named⟩ := owned name entry tracked
    rw [Option.bind_some,Option.bind_some,found]
    exact (alike.processes entry.process p named (Option.some_ne_none _)).mpr found

private theorem sameExcept_set {other : String} {i : Nat} {p q : Process} {after : State}
    (found : s.processes[i]? = some p) (named : p.name = other) (kind : p.SameKind q)
    (processes : after.processes = s.processes.set i q) (exempt : Option Nat) (apart : other = name → exempt = some i) :
    SameExcept name exempt s after := by
  intro j r is_name unlike
  have inside : i < s.processes.length := (List.getElem?_eq_some_iff.mp found).1
  rw [processes]
  by_cases same : i = j
  · subst same
    rw [List.getElem?_set_self inside,found,Option.some.injEq,Option.some.injEq]
    have different : other ≠ name := fun equal => unlike (apart equal).symm
    constructor
    · rintro rfl
      exact absurd (named.symm.trans (kind.1.symm.trans is_name)) different
    · rintro rfl
      exact absurd (named.symm.trans is_name) different
  · rw [List.getElem?_set_ne same]

theorem sameExcept_append {after : State} {p : Process} (processes : after.processes = s.processes ++ [p])
    (exempt : Option Nat) (apart : p.name = name → exempt = some s.processes.length) :
    SameExcept name exempt s after := by
  intro j r is_name unlike
  rw [processes]
  rcases Nat.lt_trichotomy j s.processes.length with old | rfl | beyond
  · rw [List.getElem?_append_left old]
  · rw [List.getElem?_concat_length,List.getElem?_eq_none (Nat.le_refl _),Option.some.injEq]
    constructor
    · rintro rfl
      exact absurd (apart is_name).symm unlike
    · rintro ⟨⟩
  · rw [List.getElem?_eq_none (by simpa using Nat.succ_le_of_lt beyond),List.getElem?_eq_none (Nat.le_of_lt beyond)]

/-- An action for one name leaves all others alone. -/
theorem alike_perform (owned : Owned s) {action : Action} (apart : action.target ≠ name) :
    Alike name s (action.perform v s) := by
  refine ⟨tracked_perform action apart,?_⟩
  cases action with
  | start spec =>
    have outcome := starts v spec s
    rw [Action.perform]
    generalize v.start spec s = result at outcome ⊢
    cases outcome with
    | alive | diskless | refused => exact .of_eq rfl _
    | launched => exact sameExcept_append rfl _ fun same => absurd same apart
  | stop other =>
    have outcome := stops v other s
    rw [Action.perform]
    generalize v.stop other s = result at outcome ⊢
    cases outcome with
    | untracked | gone => exact .of_eq rfl _
    | ended tracked found _ _ kind | stuck tracked found _ kind =>
      obtain ⟨p,found',named⟩ := owned other _ tracked
      cases found.symm.trans found'
      exact sameExcept_set found named kind rfl _ fun same => absurd same apart

end Frames

section Stops

/-- A name was stopped once: its process had exited by then and was let go, or it was asked to exit as any
stop does, and the name is no longer tracked. -/
structure Stopped (v : Supervisor) (name : String) (s after : State) : Prop where
  untracked : after.tracked.get? name = none
  processes : SameExcept name ((s.tracked.get? name).map (·.process)) s after
  once : ∀ u p, s.tracked.get? name = some u → s.processes[u.process]? = some p →
    ∃ q time, s.now ≤ time ∧ time ≤ after.now ∧ after.processes[u.process]? = some q ∧ p.SameKind q ∧
      (p.hasExited time = true ∧ q = p ∨
        p.hasExited time = false ∧ ∃ outcome ended, Escalates v.stopTimeout time p (some outcome) q ended)

theorem stopped_stop (sound : Sound s) (name : String) : Stopped v name s (v.stop name s).2 := by
  have owned := sound.owned
  have killable (u : Tracked) (p : Process) (found : s.processes[u.process]? = some p) : p.killFails = false :=
    sound.killable p (List.mem_of_getElem? found)
  have outcome := stops v name s
  generalize v.stop name s = result at outcome ⊢
  cases outcome with
  | untracked absent =>
    have untracked : s.tracked.get? name = none := by
      cases tracked : s.tracked.get? name with
      | none => rfl
      | some u =>
        obtain ⟨p,found,_⟩ := owned name u tracked
        simp [process?,tracked,found] at absent
    refine ⟨untracked,.of_eq rfl _,fun u p tracked => ?_⟩
    cases untracked.symm.trans tracked
  | gone tracked found exited =>
    refine ⟨by simp [State.untrack],.of_eq rfl _,fun u p tracked' found' => ?_⟩
    cases tracked.symm.trans tracked'
    cases found.symm.trans found'
    exact ⟨_,s.now,Nat.le_refl _,Nat.le_refl _,found,.refl _,.inl ⟨exited,rfl⟩⟩
  | @ended u p q _ time tracked found alive later kind _ run =>
    obtain ⟨p',found',named⟩ := owned name u tracked
    cases found.symm.trans found'
    have exempt : (s.tracked.get? name).map (·.process) = some u.process := by rw [tracked]; rfl
    refine ⟨by simp [State.untrack],sameExcept_set found named kind rfl _ fun _ => exempt,
      fun u' p' tracked' found' => ?_⟩
    cases tracked.symm.trans tracked'
    cases found.symm.trans found'
    have inside : u.process < s.processes.length := (List.getElem?_eq_some_iff.mp found).1
    exact ⟨q,s.now,Nat.le_refl _,later,List.getElem?_set_self inside,kind,.inr ⟨alive,_,_,run⟩⟩
  | stuck _ found _ _ unkillable => cases unkillable.symm.trans (killable _ _ found)

theorem Stopped.before {after : State} (stopped : Stopped v name t after) (owned : Owned s) (alike : Alike name s t)
    (order : s.now ≤ t.now) : Stopped v name s after := by
  refine ⟨stopped.untracked,?_,fun u p tracked found => ?_⟩
  · rw [← alike.tracked]
    exact (alike.sameExcept _).trans stopped.processes
  · obtain ⟨p',found',named⟩ := owned name u tracked
    cases found.symm.trans found'
    have kept := (alike.processes u.process p named (Option.some_ne_none _)).mpr found
    obtain ⟨q,time,later,rest⟩ := stopped.once u p (alike.tracked.trans tracked) kept
    exact ⟨q,time,Nat.le_trans order later,rest⟩

theorem Stopped.after {after : State} (stopped : Stopped v name s t) (owned : Owned s) (alike : Alike name t after)
    (order : t.now ≤ after.now) : Stopped v name s after := by
  refine ⟨alike.tracked.trans stopped.untracked,stopped.processes.trans (alike.sameExcept _),
    fun u p tracked found => ?_⟩
  obtain ⟨p',found',named⟩ := owned name u tracked
  cases found.symm.trans found'
  obtain ⟨q,time,later,sooner,present,kind,run⟩ := stopped.once u p tracked found
  have kept := (alike.processes u.process q (kind.1.trans named) (Option.some_ne_none _)).mpr present
  exact ⟨q,time,later,Nat.le_trans sooner order,kept,kind,run⟩

theorem now_stop (v : Supervisor) (name : String) (s : State) : s.now ≤ (v.stop name s).2.now := by
  have outcome := stops v name s
  generalize v.stop name s = result at outcome ⊢
  cases outcome with
  | untracked | gone | stuck => exact Nat.le_refl _
  | ended _ _ _ later => exact later

theorem now_stopAll (v : Supervisor) (names : List String) (s : State) :
    s.now ≤ (performAll v (names.map .stop) s).now := by
  induction names generalizing s with
  | nil => exact Nat.le_refl _
  | cons name rest ih => exact Nat.le_trans (now_stop v name s) (ih _)

theorem launches_stopAll (v : Supervisor) (names : List String) (s : State) :
    (performAll v (names.map .stop) s).launches = s.launches := by
  induction names generalizing s with
  | nil => rfl
  | cons name rest ih => exact (ih _).trans (launches_stop name)

/-- After the stops each machine that was named is stopped, and each other one is as before. -/
theorem stopAll_spec (sound : Sound s) {names : List String} (distinct : names.Nodup) :
    Sound (performAll v (names.map .stop) s) ∧
    (∀ name, name ∉ names → Alike name s (performAll v (names.map .stop) s)) ∧
    ∀ name ∈ names, Stopped v name s (performAll v (names.map .stop) s) := by
  induction names generalizing s with
  | nil => exact ⟨sound,fun name _ => .refl name s,by simp⟩
  | cons first rest ih =>
    obtain ⟨fresh,distinct⟩ := List.nodup_cons.mp distinct
    obtain ⟨last,others,stopped⟩ := ih (sound_stop (v := v) first sound) distinct
    have order := now_stopAll v rest (v.stop first s).2
    have apart {name : String} (other : (Action.stop first).target ≠ name) : Alike name s (v.stop first s).2 :=
      alike_perform sound.owned other
    refine ⟨last,fun name outside => ?_,fun name member => ?_⟩
    · rw [List.mem_cons,not_or] at outside
      exact (apart (Ne.symm outside.1)).trans (others name outside.2)
    · rcases List.mem_cons.mp member with rfl | inside
      · exact (stopped_stop sound name).after sound.owned (others name fresh) order
      · have other : first ≠ name := by
          rintro rfl
          exact fresh inside
        exact (stopped name inside).before sound.owned (apart other) (now_stop v first s)

end Stops

end Hostkeeper.Supervisor
