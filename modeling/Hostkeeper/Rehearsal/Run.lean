import Hostkeeper.Reconcile.Run

/-! A run of a reconciliation loop in which the loop takes its steps as soon as it can, and of two that it can take
the one chosen here: the end of the interval first, then the flag, then the store. -/
namespace Hostkeeper.Rehearsal

open Memory

abbrev Run (δ : Type) := LoopRun δ

namespace Run

variable {δ : Type}

def start (loop : ReconcileLoop Session δ) (shutdown : Bool) : Run δ := LoopRun.start loop 0 ⟨shutdown,false,false⟩

def next? (r : Run δ) : Option RunEvent :=
  match r.phase with
  | .testing => some .test
  | .ticking _ _ => some .finish
  | .woken _ => some .decide
  | .waiting due =>
    if due ≤ r.now then some .timeout
    else if r.flag.unseen then some .heed
    else if r.loop.store.hasNews then some .news
    else if r.loop.store.isUnnotified then some .notice
    else if r.flag.abandoned then some .heed
    else none
  | .stopped => none

def settle (domain : Nat → Domain Session δ) (interval : Nat) : Nat → Run δ → Run δ
  | 0, r => r
  | more + 1, r =>
    match (next? r).bind (r.step domain interval) with
    | some r => settle domain interval more r
    | none => r

/-- The loop goes on at one time. Only a run that fails leaves changes behind, so that the failing runs to come
bound the rounds, and five steps make a round. -/
def wake (domain : Nat → Domain Session δ) (interval : Nat) (r : Run δ) : Run δ :=
  settle domain interval (5 * (r.loop.store.db.failingRuns + 2)) r

def wakeAt (r : Run δ) : Option Nat :=
  match r.phase with
  | .testing | .ticking _ _ | .woken _ => some r.now
  | .waiting due => some due
  | .stopped => none

def upTo (time : Nat) (r : Run δ) : Run δ := {r with now := max r.now time}

/-- Lets time pass up to `time`: waits that end before it end; `more` bounds how many. -/
def advance (domain : Nat → Domain Session δ) (interval time : Nat) : Nat → Run δ → Run δ
  | 0, r => upTo time r
  | more + 1, r =>
    match wakeAt r with
    | some due =>
      if max due r.now < time then advance domain interval time more (wake domain interval (upTo due r))
      else upTo time r
    | none => upTo time r

def passTo (domain : Nat → Domain Session δ) (interval time : Nat) (r : Run δ) : Run δ :=
  advance domain interval time (time + 1) r

def signal (r : Run δ) (shutdown : Bool) : Run δ := LoopRun.signal r shutdown

def abandon (r : Run δ) : Run δ := LoopRun.abandon r

def mapStore (f : Database → Database) (r : Run δ) : Run δ := LoopRun.mapStore f r

def rouse (domain : Nat → Domain Session δ) (interval : Nat) (r : Run δ) : Run δ :=
  if (wakeAt r).all (· ≤ r.now) then r else wake domain interval r

end Run

end Hostkeeper.Rehearsal
