import Hostkeeper.Reconcile.Loop
import Hostkeeper.Store.Memory

/-! A reconciliation loop that runs by itself over a store in memory: while nobody wants it to stop it ticks, and
after each tick it waits until the store has changed, the interval is over or somebody has set its flag. What
the loop does and what happens around it are steps, taken in any order that the state allows. -/
namespace Hostkeeper

open Memory

inductive Work where
  | done (outcome : TickOutcome)
  | pass (snapshot : Snapshot)

namespace ReconcileLoop

variable {σ δ : Type} [StoreClient σ]

/-- The part of a tick before the domain's pass. -/
def beginTick (domain : Domain σ δ) (l : ReconcileLoop σ δ) : Work × ReconcileLoop σ δ :=
  match StoreClient.run l.store with
  | (.error e,store) => (.done (.failed e),{l with store})
  | (.ok (),store) =>
    let version := StoreClient.version store
    if l.lastVersion = some version ∧ domain.everyTick = false then (.done .idle,{l with store})
    else
      match snapshot store version domain.tables with
      | .error e => (.done (.failed e),{l with store})
      | .ok s => (.pass s,{l with store})

/-- The pass, if there is one to make, over the store as it is by then. -/
def endTick (domain : Domain σ δ) (work : Work) (l : ReconcileLoop σ δ) : TickOutcome × ReconcileLoop σ δ :=
  match work with
  | .done outcome => (outcome,l)
  | .pass s =>
    let (report,state,store) := domain.sync s l.state l.store
    (.synced report,⟨store,state,some s.version⟩)

end ReconcileLoop

structure Flag where
  on : Bool
  /-- Whether it was set since the loop last took note of it. -/
  unseen : Bool
  abandoned : Bool
  deriving DecidableEq, Repr

inductive Phase where
  | testing
  | ticking (began : Nat) (work : Work)
  | waiting (due : Nat)
  /-- The flag has ended the wait: it was set, or is `gone` for good. -/
  | woken (gone : Bool)
  | stopped

structure LoopRun (δ : Type) where
  loop : ReconcileLoop Session δ
  now : Nat
  phase : Phase
  flag : Flag

inductive RunEvent where
  | test
  | finish
  | heed
  | decide
  | news
  | notice
  | timeout
  | others (f : Database → Database)
  | set (on : Bool)
  | abandon
  | later (duration : Nat)

def RunEvent.isOwn : RunEvent → Bool
  | .test | .finish | .heed | .decide | .news | .notice | .timeout => true
  | .others _ | .set _ | .abandon | .later _ => false

namespace LoopRun

variable {δ : Type}

def start (loop : ReconcileLoop Session δ) (now : Nat) (flag : Flag) : LoopRun δ := ⟨loop,now,.testing,flag⟩

def isStopped (r : LoopRun δ) : Bool :=
  match r.phase with
  | .stopped => true
  | _ => false

def mapStore (f : Database → Database) (r : LoopRun δ) : LoopRun δ :=
  {r with loop := {r.loop with store := {r.loop.store with db := f r.loop.store.db}}}

def signal (r : LoopRun δ) (on : Bool) : LoopRun δ :=
  if r.flag.abandoned then r else {r with flag := {r.flag with on, unseen := true}}

def abandon (r : LoopRun δ) : LoopRun δ := {r with flag := {r.flag with abandoned := true}}

/-- One step, if the state allows it. The domain may depend on the time. -/
def step (domain : Nat → Domain Session δ) (interval : Nat) (r : LoopRun δ) (e : RunEvent) : Option (LoopRun δ) :=
  match e, r.phase with
  | .test, .testing =>
    if r.flag.on then some {r with phase := .stopped}
    else
      let (work,loop) := r.loop.beginTick (domain r.now)
      some {r with loop, phase := .ticking r.now work}
  | .finish, .ticking began work =>
    some {r with loop := (r.loop.endTick (domain began) work).2, phase := .waiting (r.now + interval)}
  | .heed, .waiting _ =>
    if r.flag.unseen then some {r with phase := .woken false, flag := {r.flag with unseen := false}}
    else if r.flag.abandoned then some {r with phase := .woken true}
    else none
  | .decide, .woken gone => some {r with phase := if gone || r.flag.on then .stopped else .testing}
  | .news, .waiting _ => if r.loop.store.hasNews then some {r with phase := .testing} else none
  | .notice, .waiting _ =>
    if r.loop.store.isUnnotified then
      some {r with phase := .testing, loop := {r.loop with store := r.loop.store.notify}}
    else none
  | .timeout, .waiting due => if due ≤ r.now then some {r with phase := .testing} else none
  | .others f, _ => some (r.mapStore f)
  | .set on, _ => if r.flag.abandoned then none else some (r.signal on)
  | .abandon, _ => some r.abandon
  | .later duration, _ => some {r with now := r.now + duration}
  | _, _ => none

def play (domain : Nat → Domain Session δ) (interval : Nat) (r : LoopRun δ) (events : List RunEvent) :
    Option (LoopRun δ) :=
  events.foldlM (step domain interval) r

end LoopRun

end Hostkeeper
