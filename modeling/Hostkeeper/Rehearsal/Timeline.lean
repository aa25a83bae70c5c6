import Hostkeeper.Store.Memory

/-! Clients of one store in memory as time goes by. Time passes only while a client waits; writes by others come
in at their times. -/
namespace Hostkeeper.Rehearsal

open Memory

structure Timeline where
  db : Database
  clients : List Client
  now : Nat
  /-- Tables that will get an empty row, with the time when they do, in the order of their making. -/
  arriving : List (Nat × String)

namespace Timeline

def new (tables : List String) : Timeline :=
  let s := Session.new tables
  ⟨s.db,[s.client],0,[]⟩

def session? (t : Timeline) (client : Nat) : Option Session := t.clients[client]?.map fun c => ⟨t.db,c⟩

def putSession (t : Timeline) (client : Nat) (s : Session) : Timeline :=
  {t with db := s.db, clients := t.clients.set client s.client}

def attach (t : Timeline) : Nat × Timeline :=
  (t.clients.length,{t with clients := t.clients ++ [t.db.attach]})

def expect (t : Timeline) (table : String) (delay : Nat) : Timeline :=
  {t with arriving := t.arriving ++ [(t.now + delay,table)]}

def settle (t : Timeline) : Timeline :=
  {t with
    db := (t.arriving.filter (·.1 ≤ t.now)).foldl (fun db a => (db.insertRow a.2 .empty).2) t.db
    arriving := t.arriving.filter (¬ ·.1 ≤ t.now)}

def nextBefore (t : Timeline) (deadline : Nat) : Option Nat :=
  (t.arriving.filterMap fun a => if max a.1 t.now < deadline then some (max a.1 t.now) else none).min?

/-- A client waits for a change of the store; gives back how long that took. -/
def wait (t : Timeline) (client timeout : Nat) : Nat × Timeline :=
  match t.session? client with
  | none => (0,t)
  | some s =>
    if s.hasNews then (0,t)
    else if s.isUnnotified then (0,t.putSession client s.notify)
    else
      match t.nextBefore (t.now + timeout) with
      | none => (timeout,{t with now := t.now + timeout})
      | some time =>
        let after := {t with now := time}.settle
        (time - t.now,after.putSession client (Session.notify ⟨after.db,s.client⟩))

end Timeline

end Hostkeeper.Rehearsal
