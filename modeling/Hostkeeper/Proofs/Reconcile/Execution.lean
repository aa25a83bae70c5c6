import Hostkeeper.Proofs.Reconcile.Tick
import Hostkeeper.Rehearsal.Run

/-! What a loop that runs by itself can do, with anything around it. The two halves of its tick make a tick of the
loop, and a rehearsal of it is one of its executions. -/
namespace Hostkeeper

open Memory

namespace ReconcileLoop

variable {σ δ : Type} [StoreClient σ]

/-- A tick with nothing between its parts is a tick. -/
theorem endTick_beginTick (domain : Domain σ δ) (l : ReconcileLoop σ δ) :
    endTick domain (l.beginTick domain).1 (l.beginTick domain).2 = l.tick domain := by
  rcases run : StoreClient.run l.store with ⟨e | _,store⟩
  · rw [tick_refused domain l run]
    simp only [beginTick,run,endTick]
  · by_cases idle : IsIdle domain l.lastVersion store
    · rw [tick_idle domain l run idle]
      simp only [beginTick,run,if_pos (show _ ∧ _ from idle),endTick]
    · cases taken : snapshot store (StoreClient.version store) domain.tables with
      | error e =>
        rw [tick_missing domain l run idle taken]
        simp only [beginTick,run,if_neg (show ¬(_ ∧ _) from idle),taken,endTick]
      | ok s =>
        rw [tick_synced domain l run idle taken]
        simp only [beginTick,run,if_neg (show ¬(_ ∧ _) from idle),taken,endTick]
        rw [version_of_snapshot taken]

end ReconcileLoop

namespace LoopRun

variable {δ : Type} {domain : Nat → Domain Session δ} {interval : Nat} {r after : LoopRun δ} {e : RunEvent}

section Steps

/-- All that a step can do. What happens around the loop leaves it where it is. -/
inductive Steps (domain : Nat → Domain Session δ) (interval : Nat) (r : LoopRun δ) : RunEvent → LoopRun δ → Prop
  | stop (testing : r.phase = .testing) (on : r.flag.on = true) :
      Steps domain interval r .test {r with phase := .stopped}
  | begins (testing : r.phase = .testing) (off : r.flag.on = false) : Steps domain interval r .test {r with
      loop := (r.loop.beginTick (domain r.now)).2
      phase := .ticking r.now (r.loop.beginTick (domain r.now)).1}
  | finish {began : Nat} {work : Work} (ticking : r.phase = .ticking began work) :
      Steps domain interval r .finish {r with
        loop := (r.loop.endTick (domain began) work).2
        phase := .waiting (r.now + interval)}
  | heed {due : Nat} (waiting : r.phase = .waiting due) (unseen : r.flag.unseen = true) :
      Steps domain interval r .heed {r with phase := .woken false, flag := {r.flag with unseen := false}}
  | lose {due : Nat} (waiting : r.phase = .waiting due) (seen : r.flag.unseen = false)
      (abandoned : r.flag.abandoned = true) : Steps domain interval r .heed {r with phase := .woken true}
  | leave {gone : Bool} (woken : r.phase = .woken gone) (ends : gone = true ∨ r.flag.on = true) :
      Steps domain interval r .decide {r with phase := .stopped}
  | resume (woken : r.phase = .woken false) (off : r.flag.on = false) :
      Steps domain interval r .decide {r with phase := .testing}
  | wakes {e : RunEvent} {due : Nat} {loop : ReconcileLoop Session δ} (waiting : r.phase = .waiting due)
      (own : e.isOwn = true) : Steps domain interval r e {r with phase := .testing, loop}
  | around {e : RunEvent} {after : LoopRun δ} (foreign : e.isOwn = false) (phase : after.phase = r.phase)
      (flag : after.flag.on = r.flag.on ∧ after.flag.unseen = r.flag.unseen ∨
        e = .set after.flag.on ∧ after.flag.unseen = true)
      (abandoned : r.flag.abandoned = true → after.flag.abandoned = true) : Steps domain interval r e after

theorem steps (taken : r.step domain interval e = some after) : Steps domain interval r e after := by
  unfold step at taken
  split at taken
  case h_1 testing =>
    split at taken <;> cases taken
    case isTrue on => exact .stop testing on
    case isFalse off => exact .begins testing (Bool.of_not_eq_true off)
  case h_2 ticking =>
    cases taken
    exact .finish ticking
  case h_3 waiting =>
    split at taken
    case isTrue unseen =>
      cases taken
      exact .heed waiting unseen
    case isFalse seen =>
      split at taken <;> cases taken
      next abandoned => exact .lose waiting (Bool.of_not_eq_true seen) abandoned
  case h_4 gone woken =>
    split at taken <;> cases taken
    next ends => exact .leave woken (Bool.or_eq_true _ _ |>.mp ends)
    next stays =>
      obtain ⟨rfl,off⟩ : gone = false ∧ r.flag.on = false := by simpa using stays
      exact .resume woken off
  case h_5 waiting | h_6 waiting | h_7 waiting =>
    split at taken <;> cases taken
    exact .wakes waiting rfl
  case h_8 =>
    cases taken
    exact .around rfl rfl (.inl ⟨rfl,rfl⟩) id
  case h_9 on _ =>
    split at taken <;> cases taken
    next held => simpa [signal,held] using .around rfl rfl (.inr ⟨rfl,rfl⟩) (absurd · held)
  case h_10 =>
    cases taken
    exact .around rfl rfl (.inl ⟨rfl,rfl⟩) fun _ => rfl
  case h_11 =>
    cases taken
    exact .around rfl rfl (.inl ⟨rfl,rfl⟩) id
  case h_12 => cases taken

end Steps

section Executions

/-- The states of a loop that has been started at some time, with any steps since. -/
inductive Reached (domain : Nat → Domain Session δ) (interval : Nat) : LoopRun δ → Prop
  | start (loop : ReconcileLoop Session δ) (now : Nat) (flag : Flag) : Reached domain interval (start loop now flag)
  | step {r after : LoopRun δ} {e : RunEvent} (reached : Reached domain interval r)
      (taken : r.step domain interval e = some after) : Reached domain interval after

theorem Reached.play {events : List RunEvent} (reached : Reached domain interval r)
    (played : r.play domain interval events = some after) : Reached domain interval after := by
  induction events generalizing r with
  | nil =>
    cases played
    exact reached
  | cons e rest ih =>
    obtain ⟨next,taken,played⟩ := Option.bind_eq_some_iff.mp played
    exact ih (reached.step taken) played

end Executions

end LoopRun

namespace Rehearsal.Run

open LoopRun

variable {δ : Type} {domain : Nat → Domain Session δ} {interval : Nat} {r : Run δ}

theorem reached_settle (more : Nat) (reached : Reached domain interval r) :
    Reached domain interval (settle domain interval more r) := by
  induction more generalizing r with
  | zero => exact reached
  | succ more ih =>
    rw [settle]
    split
    next after taken =>
      obtain ⟨e,_,taken⟩ := Option.bind_eq_some_iff.mp taken
      exact ih (reached.step taken)
    next => exact reached

theorem reached_upTo (time : Nat) (reached : Reached domain interval r) : Reached domain interval (upTo time r) := by
  have later : upTo time r = {r with now := r.now + (time - r.now)} := by
    rw [upTo,Nat.add_comm,Nat.sub_add_eq_max,Nat.max_comm]
  rw [later]
  exact reached.step (e := .later (time - r.now)) rfl

theorem reached_passTo (time : Nat) (reached : Reached domain interval r) :
    Reached domain interval (passTo domain interval time r) := by
  unfold passTo
  induction time + 1 generalizing r with
  | zero => exact reached_upTo time reached
  | succ more ih =>
    rw [advance]
    split
    next due _ =>
      split
      next => exact ih (reached_settle _ (reached_upTo due reached))
      next => exact reached_upTo time reached
    next => exact reached_upTo time reached

theorem reached_rouse (reached : Reached domain interval r) : Reached domain interval (rouse domain interval r) := by
  unfold rouse
  split
  · exact reached
  · exact reached_settle _ reached

end Rehearsal.Run

end Hostkeeper
