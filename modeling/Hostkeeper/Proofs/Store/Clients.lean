import Hostkeeper.Proofs.Reconcile.Tick
import Hostkeeper.Proofs.Store.Calls
import Hostkeeper.Rehearsal.Timeline

/-! Many clients of one store in memory. The version of the store is the moment that a replica shows,
and a wait goes on only as long as the replica that the client last took shows the store as it is. -/
namespace Hostkeeper

namespace Memory

namespace Database

/-- The replica has the tables that are given, each under its name and with the last row of every key. -/
def Shown (replica : KeyMap TableSnapshot) (tables : KeyMap (KeyMap Fields)) : Prop :=
  ∀ name, Option.Rel (fun table contents => table.table = name ∧ table.Shows contents) (replica.get? name)
    (tables.get? name)

theorem Shown.table {replica : KeyMap TableSnapshot} {tables : KeyMap (KeyMap Fields)} (shown : Shown replica tables)
    {name : String} {contents : KeyMap Fields} (held : tables.get? name = some contents) :
    ∃ table, replica.get? name = some table ∧ table.Shows contents := by
  have related := shown name
  rw [held] at related
  cases found : replica.get? name with
  | none => rw [found] at related; cases related
  | some table =>
    rw [found] at related
    cases related with
    | some both => exact ⟨table,rfl,both.2⟩

theorem shown_snapshots (db : Database) : Shown db.snapshots db.tables := by
  intro name
  rw [snapshots,KeyMap.get?_map]
  cases held : db.tables.get? name with
  | none => exact .none
  | some contents => exact .some ⟨TableSnapshot.table_ofRows _ _,shows_rows held⟩

theorem snapshots_of_tables {a b : Database} (same : a.tables = b.tables) : a.snapshots = b.snapshots := by
  unfold snapshots rows rowsOf
  rw [same]

theorem version_le_succ_apply (db : Database) (t : Transaction) :
    (db.apply t).2.version ≤ db.version + 1 := by
  unfold apply
  split
  · exact Nat.le_succ _
  · exact Nat.le_of_eq (congrArg (· + 1) (version_applyWrites t.writes db))

theorem version_le_succ_commit (db : Database) (t : Transaction) :
    (db.commit t).2.version ≤ db.version + 1 := by
  unfold commit
  dsimp only
  split
  · exact Nat.le_succ _
  · split
    · exact Nat.le_succ _
    · exact version_le_succ_apply {db with commits := db.commits ++ [t]} t

/-- One operation on a database: the version does not fall, and it rises by one where a table changes. -/
structure Counted (before after : Database) : Prop where
  version_le : before.version ≤ after.version
  le_succ : after.version ≤ before.version + 1
  rises : after.tables ≠ before.tables → after.version = before.version + 1

theorem Counted.of_since {before after : Database} (since : before.Since after)
    (bound : after.version ≤ before.version + 1) : Counted before after := by
  refine ⟨since.version_le,bound,fun changed => ?_⟩
  have lower := since.version_le
  have moved : after.version ≠ before.version := fun same => changed (since.tables_eq same)
  omega

end Database

theorem Call.version_le_succ (call : Call) (s : Session) : (call.perform s).db.version ≤ s.db.version + 1 := by
  cases call with
  | insert table fields => exact Nat.le_refl _
  | update table id fields =>
    change (s.db.updateRow table id fields).2.version ≤ _
    unfold Database.updateRow
    split
    · exact Nat.le_refl _
    · exact Nat.le_succ _
  | remove table id =>
    change (s.db.removeRow table id).2.version ≤ _
    unfold Database.removeRow
    split
    · exact Nat.le_refl _
    · exact Nat.le_succ _
  | commit t => exact s.db.version_le_succ_commit t
  | run =>
    change s.run.2.db.version ≤ _
    unfold Session.run
    split <;> exact Nat.le_succ _
  | notice => exact Nat.le_succ _
  | failRuns count => exact Nat.le_succ _
  | forceStatus status => exact Nat.le_succ _

/-- What a call does to the replica of its own client: a run that succeeds takes in the tables, the end
of a wait marks the version as known, and any other call leaves the client as it was. -/
theorem Call.client_perform (call : Call) (s : Session) : (call.perform s).client = s.client ∨
    (call = .notice ∧ (call.perform s).client = {s.client with notified := s.db.version}) ∨
    (call = .run ∧ s.run.1.isOk ∧
      (call.perform s).client = ⟨s.db.snapshots,s.db.version,s.db.version⟩) := by
  cases call with
  | run =>
    by_cases failing : s.db.failingRuns > 0
    · refine .inl ?_
      change s.run.2.client = _
      rw [s.run_refused failing]
      rfl
    · refine .inr (.inr ⟨rfl,?_⟩)
      change s.run.1.isOk ∧ s.run.2.client = _
      rw [s.run_current failing]
      exact ⟨rfl,rfl⟩
  | notice => exact .inr (.inl ⟨rfl,rfl⟩)
  | insert | update | remove | commit | failRuns | forceStatus => exact .inl rfl

end Memory

namespace Rehearsal.Timeline

open Memory

/-- One operation on a store: a call of one of its clients, or one more client. -/
inductive Event where
  | call (client : Nat) (call : Call)
  | clone

def Event.perform : Event → Timeline → Timeline
  | .call client made, t =>
    match t.session? client with
    | some s => t.putSession client (made.perform s)
    | none => t
  | .clone, t => t.attach.2

/-- An operation of the past, and the store and its clients before it. -/
structure Moment where
  before : Timeline
  event : Event

def Moment.after (m : Moment) : Timeline := m.event.perform m.before

def Moment.takesIn (client : Nat) (m : Moment) : Bool :=
  match m.event with
  | .call caller .run => caller == client && (m.before.session? client).any (·.run.1.isOk)
  | _ => false

/-- The database that a client took in when it last ran with success, in a past with the latest first. -/
def lastTaken (client : Nat) (past : List Moment) : Option Database :=
  (past.find? (Moment.takesIn client)).map (·.before.db)

def sinceTaken (client : Nat) (past : List Moment) : List Moment := past.takeWhile fun m => !m.takesIn client

/-- Everything that any number of clients can have done since a store was new. -/
inductive History (tables : List String) : List Moment → Timeline → Prop
  | new : History tables [] (.new tables)
  | next (past t) (event : Event) (before : History tables past t) :
      History tables (⟨t,event⟩ :: past) (event.perform t)

theorem db_session? {t : Timeline} {client : Nat} {s : Session} (found : t.session? client = some s) :
    s.db = t.db ∧ t.clients[client]? = some s.client := by
  unfold session? at found
  obtain ⟨c,held,rfl⟩ := Option.map_eq_some_iff.mp found
  exact ⟨rfl,held⟩

theorem session?_of_client {t : Timeline} {client : Nat} {c : Client} (held : t.clients[client]? = some c) :
    t.session? client = some ⟨t.db,c⟩ := by
  rw [session?,held]
  rfl

namespace Event

theorem perform_call {t : Timeline} {client : Nat} {s : Session} (found : t.session? client = some s)
    (made : Call) : (Event.call client made).perform t = t.putSession client (made.perform s) := by
  simp only [perform,found]

theorem perform_absent {t : Timeline} {client : Nat} (absent : t.session? client = none) (made : Call) :
    (Event.call client made).perform t = t := by
  simp only [perform,absent]

theorem since_counted (event : Event) (t : Timeline) :
    t.db.Since (event.perform t).db ∧ (event.perform t).db.version ≤ t.db.version + 1 := by
  cases event with
  | clone => exact ⟨.refl _,Nat.le_succ _⟩
  | call client made =>
    cases found : t.session? client with
    | none =>
      rw [perform_absent found]
      exact ⟨.refl _,Nat.le_succ _⟩
    | some s =>
      rw [perform_call found,← (db_session? found).1]
      exact ⟨made.since s,made.version_le_succ s⟩

theorem since (event : Event) (t : Timeline) : t.db.Since (event.perform t).db := (event.since_counted t).1

theorem counted (event : Event) (t : Timeline) : t.db.Counted (event.perform t).db :=
  .of_since (event.since t) (event.since_counted t).2

theorem session_perform (event : Event) {t : Timeline} {client : Nat} {s : Session}
    (found : t.session? client = some s) : ∃ c, (event.perform t).session? client = some ⟨(event.perform t).db,c⟩ ∧
      (c = s.client ∨ ∃ made, event = .call client made ∧ c = (made.perform s).client) := by
  obtain ⟨_,held⟩ := db_session? found
  have bound : client < t.clients.length := (List.getElem?_eq_some_iff.mp held).1
  cases event with
  | clone =>
    refine ⟨s.client,session?_of_client ?_,.inl rfl⟩
    change (t.clients ++ [t.db.attach])[client]? = _
    rw [List.getElem?_append_left bound,held]
  | call caller made =>
    by_cases own : caller = client
    · subst own
      rw [perform_call found]
      refine ⟨_,session?_of_client ?_,.inr ⟨made,rfl,rfl⟩⟩
      exact List.getElem?_set_self bound
    · cases other : t.session? caller with
      | none =>
        rw [perform_absent other]
        exact ⟨s.client,session?_of_client held,.inl rfl⟩
      | some u =>
        rw [perform_call other]
        refine ⟨s.client,session?_of_client ?_,.inl rfl⟩
        change (t.clients.set caller _)[client]? = _
        rw [List.getElem?_set_ne own,held]

end Event

theorem Moment.takesIn_iff {client : Nat} {m : Moment} : m.takesIn client ↔
    m.event = .call client .run ∧ ∃ s, m.before.session? client = some s ∧ s.run.1.isOk := by
  unfold takesIn
  split
  next caller run =>
    rw [run,Bool.and_eq_true,beq_iff_eq,Option.any_eq_true]
    constructor
    · rintro ⟨rfl,ran⟩
      exact ⟨rfl,ran⟩
    · rintro ⟨same,ran⟩
      exact ⟨(Event.call.inj same).1,ran⟩
  next other =>
    constructor
    · exact fun never => nomatch never
    · rintro ⟨run,_⟩
      exact absurd run (other client)

/-- What a client has that took in one database and has not taken in another one since. -/
structure Holds (taken now : Database) (c : Client) : Prop where
  seen : c.seen = taken.version
  replica : c.replica = taken.snapshots
  since : taken.Since now
  seen_le : c.seen ≤ c.notified
  notified_le : c.notified ≤ now.version

theorem Holds.later {taken now after : Database} {c : Client} (holds : Holds taken now c)
    (since : now.Since after) : Holds taken after c :=
  {holds with since := holds.since.trans since, notified_le := Nat.le_trans holds.notified_le since.version_le}

theorem Moment.holds_of_takesIn {client : Nat} {m : Moment} (takes : m.takesIn client) : ∃ c,
    m.after.session? client = some ⟨m.after.db,c⟩ ∧ Holds m.before.db m.after.db c := by
  obtain ⟨run,s,found,ok⟩ := takesIn_iff.mp takes
  obtain ⟨same,held⟩ := db_session? found
  have bound : client < m.before.clients.length := (List.getElem?_eq_some_iff.mp held).1
  have alive : ¬s.db.failingRuns > 0 := by
    intro failing
    rw [s.run_refused failing] at ok
    cases ok
  have after : m.after = m.before.putSession client s.run.2 := by
    rw [Moment.after,run]
    exact Event.perform_call found .run
  rw [after,s.run_current alive]
  refine ⟨_,session?_of_client (List.getElem?_set_self bound),?_⟩
  change Holds m.before.db s.db ⟨s.db.snapshots,s.db.version,s.db.version⟩
  rw [same]
  exact ⟨rfl,rfl,.refl _,Nat.le_refl _,Nat.le_refl _⟩

theorem Moment.client_of_not_takesIn {client : Nat} {m : Moment} {s : Session}
    (found : m.before.session? client = some s) (other : ¬m.takesIn client) : ∃ c,
    m.after.session? client = some ⟨m.after.db,c⟩ ∧
    (c = s.client ∨ c = {s.client with notified := m.after.db.version}) := by
  obtain ⟨c,kept,same | ⟨made,own,rfl⟩⟩ := m.event.session_perform found
  · exact ⟨c,kept,.inl same⟩
  · refine ⟨_,kept,?_⟩
    obtain same | ⟨rfl,noticed⟩ | ⟨rfl,ok,_⟩ := made.client_perform s
    · exact .inl same
    · refine .inr (noticed.trans ?_)
      rw [Moment.after,own,Event.perform_call found]
      rfl
    · exact absurd (takesIn_iff.mpr ⟨own,s,found,ok⟩) other

theorem lastTaken_cons (client : Nat) (m : Moment) (past : List Moment) : lastTaken client (m :: past) =
    if m.takesIn client then some m.before.db else lastTaken client past := by
  unfold lastTaken
  rw [List.find?_cons]
  cases m.takesIn client <;> rfl

namespace History

variable {tables : List String} {past : List Moment} {t : Timeline}

theorem holds (history : History tables past t) {client : Nat} {taken : Database}
    (found : lastTaken client past = some taken) :
    ∃ c, t.session? client = some ⟨t.db,c⟩ ∧ Holds taken t.db c := by
  induction history with
  | new => cases found
  | next past t event before ih =>
    rw [lastTaken_cons] at found
    split at found
    next takes =>
      obtain rfl := Option.some.inj found
      exact Moment.holds_of_takesIn takes
    next other =>
      obtain ⟨c,held,holds⟩ := ih found
      have since := event.since t
      obtain ⟨after,kept,rfl | rfl⟩ := Moment.client_of_not_takesIn held other
      · exact ⟨_,kept,holds.later since⟩
      · exact ⟨_,kept,{holds.later since with
          seen_le := Nat.le_trans holds.seen_le (Nat.le_trans holds.notified_le since.version_le)
          notified_le := Nat.le_refl _}⟩

theorem since (history : History tables past t) {m : Moment} (member : m ∈ past) : m.before.db.Since t.db := by
  induction history with
  | new => cases member
  | next past t event before ih =>
    have step := event.since t
    cases member with
    | head => exact step
    | tail _ member => exact (ih member).trans step

/-- An operation after the last run of a client with success comes between the database taken in and the
present one. -/
theorem between (history : History tables past t) {client : Nat} {taken : Database}
    (found : lastTaken client past = some taken) {m : Moment} (member : m ∈ sinceTaken client past) :
    taken.Since m.before.db ∧ m.after.db.Since t.db := by
  induction history with
  | new => cases found
  | next past t event before ih =>
    rw [sinceTaken,List.takeWhile_cons] at member
    split at member
    next other =>
      have unchanged : lastTaken client past = some taken := by
        rwa [lastTaken_cons,if_neg (by simpa using other)] at found
      cases member with
      | head =>
        obtain ⟨_,_,holds⟩ := before.holds unchanged
        exact ⟨holds.since,.refl _⟩
      | tail _ member =>
        obtain ⟨after,since⟩ := ih unchanged member
        exact ⟨after,since.trans (event.since t)⟩
    next => cases member

/-- One version never stands for two contents. -/
theorem tables_eq_of_version (history : History tables past t) {m n : Moment} (first : m ∈ past) (second : n ∈ past)
    (same : m.before.db.version = n.before.db.version) : m.before.db.tables = n.before.db.tables := by
  induction history with
  | new => cases first
  | next past t event before ih =>
    cases first with
    | head =>
      cases second with
      | head => rfl
      | tail _ second => exact (before.since second).tables_eq same
    | tail _ first =>
      cases second with
      | head => exact ((before.since first).tables_eq same.symm).symm
      | tail _ second => exact ih first second

theorem replica_eq_of_seen (history : History tables past t) {client : Nat} {m n : Moment}
    (first : m ∈ past) (second : n ∈ past) (ran : m.takesIn client) (again : n.takesIn client) {a b : Session}
    (left : m.after.session? client = some a) (right : n.after.session? client = some b)
    (same : a.client.seen = b.client.seen) : a.client.replica = b.client.replica := by
  obtain ⟨c,found,holds⟩ := Moment.holds_of_takesIn ran
  obtain ⟨d,also,others⟩ := Moment.holds_of_takesIn again
  obtain rfl := Option.some.inj (left.symm.trans found)
  obtain rfl := Option.some.inj (right.symm.trans also)
  have versions : m.before.db.version = n.before.db.version := holds.seen.symm.trans (same.trans others.seen)
  exact holds.replica.trans ((Database.snapshots_of_tables
    (history.tables_eq_of_version first second versions)).trans others.replica.symm)

theorem tables_of_version (history : History tables past t) {client : Nat} {taken : Database}
    (found : lastTaken client past = some taken) {m : Moment} (member : m ∈ past)
    (same : m.before.db.version = taken.version) : m.before.db.tables = taken.tables := by
  obtain ⟨n,run,rfl⟩ := Option.map_eq_some_iff.mp found
  exact history.tables_eq_of_version member (List.mem_of_find?_eq_some run) same

end History

section Waiting

variable {t : Timeline}

theorem nextBefore_le (deadline : Nat) {a : Nat × String} (member : a ∈ t.arriving) :
    (t.nextBefore deadline).getD deadline ≤ max a.1 t.now := by
  unfold nextBefore
  by_cases soon : max a.1 t.now < deadline
  · have listed : max a.1 t.now ∈ t.arriving.filterMap
        fun a => if max a.1 t.now < deadline then some (max a.1 t.now) else none :=
      List.mem_filterMap.mpr ⟨a,member,if_pos soon⟩
    obtain ⟨least,found⟩ := Option.isSome_iff_exists.mp (List.isSome_min?_of_mem listed)
    rw [found]
    exact (List.min?_eq_some_iff.mp found).2 _ listed
  · cases found : (t.arriving.filterMap
        fun a => if max a.1 t.now < deadline then some (max a.1 t.now) else none).min? with
    | none => exact Nat.le_of_not_lt soon
    | some least =>
      obtain ⟨x,_,time⟩ := List.mem_filterMap.mp (List.min?_eq_some_iff.mp found).1
      split at time
      next early =>
        have same : max x.1 t.now = least := Option.some.inj time
        change least ≤ max a.1 t.now
        omega
      next => cases time

theorem wait_le_arrival {client timeout : Nat} {a : Nat × String} (member : a ∈ t.arriving) :
    (t.wait client timeout).1 ≤ a.1 - t.now := by
  have bound := nextBefore_le (t.now + timeout) member
  unfold wait
  split
  · exact Nat.zero_le _
  · split
    · exact Nat.zero_le _
    · split
      · exact Nat.zero_le _
      · split
        next never =>
          rw [never] at bound
          simp only [Option.getD_none] at bound
          change timeout ≤ _
          omega
        next time soonest =>
          rw [soonest] at bound
          simp only [Option.getD_some] at bound
          change time - t.now ≤ _
          omega

theorem wait_news {client timeout : Nat} {s : Session} (found : t.session? client = some s)
    (news : s.hasNews) : t.wait client timeout = (0,t) := by
  unfold wait
  rw [found]
  exact if_pos news

end Waiting

def perform (events : List Event) (t : Timeline) : Timeline := events.foldl (fun t event => event.perform t) t

theorem perform_append (first second : List Event) (t : Timeline) :
    perform (first ++ second) t = perform second (perform first t) := List.foldl_append

theorem perform_inserts (arrived : List (Nat × String)) {t : Timeline} {client : Nat} {c : Client}
    (held : t.clients[client]? = some c) : perform (arrived.map fun a => .call client (.insert a.2 .empty)) t =
      {t with db := arrived.foldl (fun db a => (db.insertRow a.2 .empty).2) t.db} := by
  induction arrived generalizing t with
  | nil => rfl
  | cons a rest ih =>
    have unmoved : t.clients.set client c = t.clients := by
      obtain ⟨_,own⟩ := List.getElem?_eq_some_iff.mp held
      rw [← own,List.set_getElem_self]
    have first : (Event.call client (.insert a.2 .empty)).perform t = {t with db := (t.db.insertRow a.2 .empty).2} := by
      rw [Event.perform_call (session?_of_client held)]
      change {t with db := _, clients := t.clients.set client c} = _
      rw [unmoved]
      rfl
    rw [List.map_cons,perform,List.foldl_cons,first]
    exact ih held

theorem wait_eq_perform (t : Timeline) (client timeout : Nat) : ∃ events,
    (t.wait client timeout).2.db = (perform events t).db ∧
    (t.wait client timeout).2.clients = (perform events t).clients := by
  cases found : t.session? client with
  | none => exact ⟨[],by rw [wait,found]; exact ⟨rfl,rfl⟩⟩
  | some s =>
    have noticed {u : Timeline} (held : u.clients[client]? = some s.client) :
        perform [.call client .notice] u = u.putSession client (Session.notify ⟨u.db,s.client⟩) :=
      Event.perform_call (session?_of_client held) .notice
    obtain ⟨same,held⟩ := db_session? found
    unfold wait
    rw [found]
    dsimp only
    split
    · exact ⟨[],rfl,rfl⟩
    · split
      · refine ⟨[.call client .notice],?_⟩
        rw [noticed held,← same]
        exact ⟨rfl,rfl⟩
      · split
        · exact ⟨[],rfl,rfl⟩
        next time _ =>
          refine ⟨(t.arriving.filter (·.1 ≤ time)).map (fun a => .call client (.insert a.2 .empty)) ++
            [.call client .notice],?_⟩
          rw [perform_append,perform_inserts _ held,noticed (by exact held)]
          exact ⟨rfl,rfl⟩

theorem History.perform {tables : List String} {past : List Moment} {t : Timeline} (history : History tables past t)
    (events : List Event) : ∃ later, History tables (later ++ past) (Timeline.perform events t) := by
  induction events generalizing past t with
  | nil => exact ⟨[],history⟩
  | cons event rest ih =>
    obtain ⟨later,reached⟩ := ih (history.next _ _ event)
    exact ⟨later ++ [⟨t,event⟩],by rwa [List.append_assoc]⟩

/-- A wait leaves nothing behind that clients cannot have done otherwise. -/
theorem History.wait {tables : List String} {past : List Moment} {t : Timeline} (history : History tables past t)
    (client timeout : Nat) : ∃ later u, History tables (later ++ past) u ∧
      (t.wait client timeout).2.db = u.db ∧ (t.wait client timeout).2.clients = u.clients := by
  obtain ⟨events,db,clients⟩ := wait_eq_perform t client timeout
  obtain ⟨later,reached⟩ := history.perform events
  exact ⟨later,_,reached,db,clients⟩

theorem session_perform_others {client : Nat} {c : Client} {events : List Event}
    (others : ∀ made, .call client made ∉ events) {t : Timeline} (held : t.session? client = some ⟨t.db,c⟩) :
    t.db.Since (perform events t).db ∧
      (perform events t).session? client = some ⟨(perform events t).db,c⟩ := by
  induction events generalizing t with
  | nil => exact ⟨.refl _,held⟩
  | cons event rest ih =>
    have step : (event.perform t).session? client = some ⟨(event.perform t).db,c⟩ := by
      obtain ⟨_,kept,rfl | ⟨made,own,_⟩⟩ := event.session_perform held
      · exact kept
      · exact absurd (own ▸ List.mem_cons_self) (others made)
    obtain ⟨since,kept⟩ := ih (fun made member => others made (List.mem_cons_of_mem _ member)) step
    exact ⟨(event.since t).trans since,kept⟩

/-- A client that goes to sleep for want of news is woken by the first write. -/
theorem Holds.tables_eq_of_asleep {taken : Database} {t : Timeline} {c : Client} (holds : Holds taken t.db c)
    {client : Nat} (held : t.session? client = some ⟨t.db,c⟩) (asleep : ¬Session.hasNews ⟨t.db,c⟩) {events : List Event}
    (others : ∀ made, .call client made ∉ events) (unwoken : ¬Session.isUnnotified ⟨(perform events t).db,c⟩) :
    (perform events t).db.tables = taken.tables := by
  -- What is seen is notified and what is notified is there, so without news all three are one version.
  have current : t.db.version = c.seen := by simpa [Session.hasNews] using asleep
  have noticed : (perform events t).db.version = c.notified := by simpa [Session.isUnnotified] using unwoken
  have lower := holds.seen_le
  have upper := holds.notified_le
  have same := holds.seen
  exact (holds.since.trans (session_perform_others others held).1).tables_eq (by omega)

/-- What holds of a client that has run with success, `taken` being the database that it last took in. -/
structure Follows (past : List Moment) (t : Timeline) (client : Nat) (c : Client) (taken : Database) : Prop where
  seen : c.seen = taken.version
  shown : Database.Shown c.replica taken.tables
  /-- The replica shows the tables of every moment at which the version was the one that it has seen. -/
  of_version : ∀ m ∈ past, m.before.db.version = c.seen → Database.Shown c.replica m.before.db.tables
  /-- A wait does not begin where an operation since the run has changed a table. -/
  at_once : ∀ m ∈ sinceTaken client past, m.after.db.tables ≠ m.before.db.tables → ∀ now arriving timeout,
    wait {t with now, arriving} client timeout = (0,{t with now, arriving})
  /-- A wait does not last beyond a write that comes in. -/
  in_time : ∀ now arriving timeout, ∀ arrival ∈ arriving,
    (wait {t with now, arriving} client timeout).1 ≤ arrival.1 - now
  /-- As long as the client sleeps and is not notified, the tables are as it took them in. -/
  asleep : ¬Session.hasNews ⟨t.db,c⟩ → ∀ events, (∀ made, .call client made ∉ events) →
    ¬Session.isUnnotified ⟨(perform events t).db,c⟩ → (perform events t).db.tables = taken.tables

theorem History.follows {tables : List String} {past : List Moment} {t : Timeline} (history : History tables past t)
    {client : Nat} {c : Client} {taken : Database} (held : t.session? client = some ⟨t.db,c⟩)
    (last : lastTaken client past = some taken) : Follows past t client c taken := by
  obtain ⟨d,found,holds⟩ := history.holds last
  obtain rfl : c = d := congrArg Session.client (Option.some.inj (held.symm.trans found))
  refine ⟨holds.seen,holds.replica ▸ taken.shown_snapshots,?_,?_,fun _ _ _ _ member => wait_le_arrival member,?_⟩
  · intro m member same
    rw [holds.replica,history.tables_of_version last member (same.trans holds.seen)]
    exact taken.shown_snapshots
  · intro m member changed now arriving timeout
    obtain ⟨after,since⟩ := history.between last member
    have rise : m.after.db.version = m.before.db.version + 1 := (m.event.counted m.before).rises changed
    have newer : t.db.version ≠ c.seen := by
      have first := after.version_le
      have later := since.version_le
      have seen := holds.seen
      omega
    exact wait_news held (by simpa [Session.hasNews] using newer)
  · intro asleep events others unwoken
    exact holds.tables_eq_of_asleep held asleep others unwoken

/-- For any clients and anything that they have done, waits included: an operation that changes a table
raises the version by one, and none lowers it. A client's replica and the version it has seen are changed
by a run of its own that succeeds only, and two such runs that leave it one version leave it one replica.
Its replica has the rows of the tables as they were at that version, and it sleeps only while they stay so. -/
theorem replicas_follow_the_version {tables : List String} {past : List Moment} {t : Timeline}
    (history : History tables past t) :
    (∀ event : Event, t.db.Counted (event.perform t).db) ∧
    (∀ client timeout, ∃ later u, History tables (later ++ past) u ∧
      (t.wait client timeout).2.db = u.db ∧ (t.wait client timeout).2.clients = u.clients) ∧
    ∀ client s, t.session? client = some s →
      (∀ event, ¬(⟨t,event⟩ : Moment).takesIn client → ∃ after, (event.perform t).session? client = some after ∧
        after.client.replica = s.client.replica ∧ after.client.seen = s.client.seen) ∧
      (∀ m ∈ past, ∀ n ∈ past, m.takesIn client → n.takesIn client → ∀ a b,
        m.after.session? client = some a → n.after.session? client = some b →
        a.client.seen = b.client.seen → a.client.replica = b.client.replica) ∧
      ∀ taken, lastTaken client past = some taken → Follows past t client s.client taken := by
  refine ⟨fun event => event.counted t,history.wait,fun client s found => ⟨?_,?_,fun taken last => ?_⟩⟩
  · intro event other
    obtain ⟨c,kept,rfl | rfl⟩ := Moment.client_of_not_takesIn (m := ⟨t,event⟩) found other
    · exact ⟨_,kept,rfl,rfl⟩
    · exact ⟨_,kept,rfl,rfl⟩
  · intro m first n second ran again a b left right
    exact history.replica_eq_of_seen first second ran again left right
  · exact history.follows (session?_of_client (db_session? found).2) last

/-- What has been done where one client made a row and took it in, another one came, and a second row after it. -/
def overtaken : List Event := [.call 0 (.insert "Telemetry" .empty),.call 0 .run,.clone,
  .call 1 (.insert "Telemetry" .empty)]

/-- The first client has one of two rows in its replica, and no wait of it lasts. -/
theorem overtaken_client_never_sleeps :
    ∃ past taken s, History ["Telemetry"] past (perform overtaken (.new ["Telemetry"])) ∧
    lastTaken 0 past = some taken ∧ (perform overtaken (.new ["Telemetry"])).session? 0 = some s ∧
    s.client.seen = 1 ∧ s.db.version = 2 ∧ (s.db.rows "Telemetry").map (·.id) = [rowId 1,rowId 2] ∧
    (∃ table, s.client.replica.get? "Telemetry" = some table ∧
      table.get? (rowId 1) = some ⟨rowId 1,.empty⟩ ∧ table.get? (rowId 2) = none) ∧
    ∀ timeout,
      (perform overtaken (.new ["Telemetry"])).wait 0 timeout = (0,perform overtaken (.new ["Telemetry"])) := by
  have start : History ["Telemetry"] [] (.new ["Telemetry"]) := .new
  have history := History.next _ _ (.call 1 (.insert "Telemetry" .empty)) (.next _ _ .clone
    (.next _ _ (.call 0 .run) (.next _ _ (.call 0 (.insert "Telemetry" .empty)) start)))
  have follows := ((replicas_follow_the_version history).2.2 0 _ rfl).2.2 _ rfl
  have waits (timeout) := follows.at_once _ List.mem_cons_self (by decide +kernel) 0 [] timeout
  have committed : (perform [.call 0 (.insert "Telemetry" .empty)] (.new ["Telemetry"])).db.tables.get? "Telemetry" =
      some (.single (rowId 1) .empty) := by decide +kernel
  refine ⟨_,_,_,history,rfl,rfl,follows.seen,rfl,by decide +kernel,?_,waits⟩
  obtain ⟨table,found,shown⟩ := follows.shown.table committed
  have row := TableSnapshot.Shows.get?_single ⟨rowId 1,.empty⟩ shown
  exact ⟨table,found,(row _).trans (if_pos rfl),(row _).trans (if_neg (by decide +kernel))⟩

end Rehearsal.Timeline

end Hostkeeper
