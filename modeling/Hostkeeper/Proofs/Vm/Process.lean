import Hostkeeper.Vm.Process

/-! What signals and waits do to a process. All of them keep its name and whether it can be killed. -/
namespace Hostkeeper.Process

theorem hasExited_iff (p : Process) (now : Nat) :
    p.hasExited now = true ↔ ∃ time, p.exitAt = some time ∧ time ≤ now := by
  unfold hasExited
  cases p.exitAt <;> simp

theorem hasExited_mono {p : Process} {now later : Nat} (exited : p.hasExited now = true) (order : now ≤ later) :
    p.hasExited later = true := by
  obtain ⟨time,found,early⟩ := (hasExited_iff p now).mp exited
  exact (hasExited_iff p later).mpr ⟨time,found,Nat.le_trans early order⟩

theorem hasExited_exitBy (p : Process) (time : Nat) : (p.exitBy time).hasExited time = true := by
  refine (hasExited_iff _ time).mpr ⟨_,rfl,?_⟩
  cases p.exitAt with
  | none => exact Nat.le_refl time
  | some exit => exact Nat.min_le_right exit time

theorem hasExited_exitBy_of {p : Process} {now time : Nat} (exited : p.hasExited now = true) :
    (p.exitBy time).hasExited now = true := by
  obtain ⟨exit,found,early⟩ := (hasExited_iff p now).mp exited
  refine (hasExited_iff _ now).mpr ⟨_,rfl,?_⟩
  rw [found]
  exact Nat.le_trans (Nat.min_le_left exit time) early

theorem hasExited_kill {p : Process} (now : Nat) (killable : p.killFails = false) :
    (p.kill now).hasExited now = true := by
  rw [kill,killable]
  exact hasExited_exitBy _ now

/-- Two processes are of one name and can both be killed or not. -/
def SameKind (p q : Process) : Prop := q.name = p.name ∧ q.killFails = p.killFails

theorem SameKind.refl (p : Process) : SameKind p p := ⟨rfl,rfl⟩

theorem SameKind.trans {p q r : Process} (first : SameKind p q) (second : SameKind q r) : SameKind p r :=
  ⟨second.1.trans first.1,second.2.trans first.2⟩

theorem sameKind_exitBy (p : Process) (time : Nat) : SameKind p (p.exitBy time) := ⟨rfl,rfl⟩

theorem sameKind_terminate (p : Process) (now : Nat) : SameKind p (p.terminate now) := by
  unfold terminate
  split <;> exact ⟨rfl,rfl⟩

theorem sameKind_kill (p : Process) (now : Nat) : SameKind p (p.kill now) := by
  unfold kill
  split <;> exact ⟨rfl,rfl⟩

theorem sameKind_wait (p : Process) (now : Nat) : SameKind p (p.wait now).2 := by
  unfold wait
  split
  · exact ⟨rfl,rfl⟩
  · split <;> exact ⟨rfl,rfl⟩

theorem exitAt_wait (p : Process) (now : Nat) : (p.wait now).2.exitAt = p.exitAt := by
  unfold wait
  split
  · rfl
  · split <;> rfl

theorem hasExited_wait (p : Process) (now time : Nat) : (p.wait now).2.hasExited time = p.hasExited time := by
  rw [hasExited,exitAt_wait]
  rfl

theorem wait_exits {p : Process} {now time : Nat} (ended : (p.wait now).1 = .exits time) :
    now ≤ time ∧ p.hasExited time = true := by
  unfold wait at ended
  split at ended
  · cases ended
  · split at ended
    next exit found =>
      cases ended
      exact ⟨Nat.le_max_right _ _,(hasExited_iff p _).mpr ⟨exit,found,Nat.le_max_left _ _⟩⟩
    next => cases ended

theorem wait_failed {p : Process} {now time : Nat} (ended : (p.wait now).1 = .failed time) : now ≤ time := by
  unfold wait at ended
  split at ended
  · cases ended
    exact Nat.le_add_right now p.failsAfter
  · split at ended <;> cases ended

theorem wait_never {p : Process} {now : Nat} (ended : (p.wait now).1 = .never) : p.exitAt = none := by
  unfold wait at ended
  split at ended
  · cases ended
  · split at ended
    next => cases ended
    next found => exact found

end Hostkeeper.Process
