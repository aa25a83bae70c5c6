import Hostkeeper.Proofs.Reconcile.Tick
import Hostkeeper.Proofs.Store.Calls
import Hostkeeper.Rehearsal.Probe

/-! When a row that failed is tried again. Of a pass the loop remembers the version it was made at and nothing
else, so that failures have no part in when the next pass comes: it comes with the next change of the store, or
with the next tick for a domain that passes on every tick. -/
namespace Hostkeeper.ReconcileLoop

section Waiting

variable {σ δ : Type} [StoreClient σ]

/-- Everything that a tick on any store can do. -/
inductive Outcome (domain : Domain σ δ) (l : ReconcileLoop σ δ) : TickOutcome × ReconcileLoop σ δ → Prop
  | failed (e : StoreError) (store : σ) (run : (StoreClient.run l.store).2 = store) :
      Outcome domain l (.failed e,{l with store})
  | idle (store : σ) (run : StoreClient.run l.store = (.ok (),store)) (idle : IsIdle domain l.lastVersion store) :
      Outcome domain l (.idle,{l with store})
  | synced (s : Snapshot) (store : σ) (run : StoreClient.run l.store = (.ok (),store))
      (due : ¬IsIdle domain l.lastVersion store)
      (taken : snapshot store (StoreClient.version store) domain.tables = .ok s) :
      Outcome domain l (.synced (domain.sync s l.state store).1,
        ⟨(domain.sync s l.state store).2.2,(domain.sync s l.state store).2.1,some (StoreClient.version store)⟩)

theorem tick_outcome (domain : Domain σ δ) (l : ReconcileLoop σ δ) : Outcome domain l (l.tick domain) := by
  rcases run : StoreClient.run l.store with ⟨e | _,store⟩
  · rw [tick_refused domain l run]
    exact .failed e store (congrArg Prod.snd run)
  · by_cases idle : IsIdle domain l.lastVersion store
    · rw [tick_idle domain l run idle]
      exact .idle store run idle
    · cases taken : snapshot store (StoreClient.version store) domain.tables with
      | error e =>
        rw [tick_missing domain l run idle taken]
        exact .failed e store (congrArg Prod.snd run)
      | ok s =>
        rw [tick_synced domain l run idle taken]
        exact .synced s store run idle taken

/-- What can become of a loop until its next pass: ticks make none, others act on the store and the domain. -/
inductive Rests (domain : Domain σ δ) (passed : ReconcileLoop σ δ) : ReconcileLoop σ δ → Prop
  | passed : Rests domain passed passed
  | tick (l) (before : Rests domain passed l) (unsynced : ∀ report, (l.tick domain).1 ≠ .synced report) :
      Rests domain passed (l.tick domain).2
  | others (l store state) (before : Rests domain passed l) : Rests domain passed {l with store, state}

theorem Rests.lastVersion_eq {domain : Domain σ δ} {passed l : ReconcileLoop σ δ} (rests : Rests domain passed l) :
    l.lastVersion = passed.lastVersion := by
  induction rests with
  | passed => rfl
  | tick l _ unsynced ih =>
    have known := tick_outcome domain l
    generalize l.tick domain = ticked at known unsynced
    cases known with
    | failed => exact ih
    | idle => exact ih
    | synced => exact absurd rfl (unsynced _)
  | others l store state _ ih => exact ih

theorem lastVersion_of_synced {domain : Domain σ δ} {l after : ReconcileLoop σ δ} {report : SyncReport}
    (ticked : l.tick domain = (.synced report,after)) :
    after.lastVersion = some (StoreClient.version (StoreClient.run l.store).2) := by
  have known := tick_outcome domain l
  rw [ticked] at known
  cases known with
  | synced s store run => rw [run]

/-- After a pass, with failed rows or without, the next tick that can advance and read the store makes a pass
if the domain passes on every tick or the version is another than that of the pass, and none otherwise. -/
theorem failed_row_waits_for_a_change (domain : Domain σ δ) (l : ReconcileLoop σ δ) (report : SyncReport)
    (after next : ReconcileLoop σ δ) (ticked : l.tick domain = (.synced report,after))
    (rests : Rests domain after next) (read : ∀ e, (next.tick domain).1 ≠ .failed e) :
    let version := StoreClient.version (StoreClient.run l.store).2
    let store := (StoreClient.run next.store).2
    if domain.everyTick = true ∨ StoreClient.version store ≠ version then
      ∃ s, snapshot store (StoreClient.version store) domain.tables = .ok s ∧
        next.tick domain = (.synced (domain.sync s next.state store).1,
          ⟨(domain.sync s next.state store).2.2,(domain.sync s next.state store).2.1,
            some (StoreClient.version store)⟩)
    else next.tick domain = (.idle,{next with store}) := by
  intro version store
  have last : next.lastVersion = some version := rests.lastVersion_eq.trans (lastVersion_of_synced ticked)
  have known := tick_outcome domain next
  generalize next.tick domain = outcome at known read
  cases known with
  | failed e => exact absurd rfl (read e)
  | idle _ run idle =>
    obtain rfl : store = _ := congrArg Prod.snd run
    have same : StoreClient.version store = version := (Option.some.inj (last.symm.trans idle.1)).symm
    rw [if_neg (by simp [idle.2,same])]
  | synced s _ run due taken =>
    obtain rfl : store = _ := congrArg Prod.snd run
    rw [if_pos]
    · exact ⟨s,taken,rfl⟩
    · by_contra neither
      obtain ⟨quiet,same⟩ := not_or.mp neither
      exact due ⟨last.trans (congrArg some (not_not.mp same).symm),Bool.of_not_eq_true quiet⟩

end Waiting

open Memory

/-- A domain that always fails on the interface eth0. -/
def unlucky : Domain Session (List Rehearsal.Note) :=
  Rehearsal.Probe.domain ⟨["Interface"],false,["eth0"],[],none⟩ 0

def failure : SyncReport := {failed := [⟨"eth0","link not found"⟩]}

def stocked : Session := Call.perform (.insert "Interface" (.single "name" (.text "eth0"))) (.new ["Interface"])

def failedOnce : ReconcileLoop Session (List Rehearsal.Note) := ((new stocked []).tick unlucky).2

/-- After a tick that passed the store over, another client adds an interface. -/
def resupplied : ReconcileLoop Session (List Rehearsal.Note) :=
  let idle := (failedOnce.tick unlucky).2
  {idle with store := Call.perform (.insert "Interface" (.single "name" (.text "eth1"))) idle.store}

/-- A change to another row has the failed row tried again. -/
theorem change_brings_a_retry : (new stocked []).tick unlucky = (.synced failure,failedOnce) ∧
    Rests unlucky failedOnce resupplied ∧ (∀ e, (resupplied.tick unlucky).1 ≠ .failed e) ∧
    ∃ last, resupplied.tick unlucky = (.synced {failure with applied := 1},last) := by
  have ticked : (new stocked []).tick unlucky = (.synced failure,failedOnce) := rfl
  have rests : Rests unlucky failedOnce resupplied :=
    .others _ _ _ (.tick _ .passed fun report => by rintro ⟨⟩)
  have read : ∀ e, (resupplied.tick unlucky).1 ≠ .failed e := fun e => by rintro ⟨⟩
  refine ⟨ticked,rests,read,?_⟩
  obtain ⟨s,taken,retried⟩ := failed_row_waits_for_a_change unlucky _ failure failedOnce resupplied ticked rests read
  obtain rfl := Except.ok.inj taken
  exact ⟨_,retried⟩

/-- On a quiet store a failed row stays there to be read, and no other pass is made. -/
theorem quiet_store_leaves_failed_row : (new stocked []).tick unlucky = (.synced failure,failedOnce) ∧
    (StoreClient.run failedOnce.store).1 = .ok () ∧
    (∃ s, snapshot failedOnce.store.current 1 unlucky.tables = .ok s) ∧
    failedOnce.tick unlucky = (.idle,{failedOnce with store := failedOnce.store.current}) := by
  exact ⟨rfl,rfl,⟨_,rfl⟩,rfl⟩

end Hostkeeper.ReconcileLoop
