import Hostkeeper.Proofs.Json.Hashed
import Hostkeeper.Proofs.Ovsdb.Contents

/-! What runs make of the replies of the client program. A replica remembers the last reply that
could be understood, whole, and its version moves with the tables in it. -/
namespace Hostkeeper.Ovsdb

abbrev Reply := Except OsError ProgramEnd

def decodeReply (config : OvsdbConfig) (reply : Reply) : Except StoreError (KeyMap TableSnapshot) :=
  (readResults config.remote reply).bind (Wire.decodeSelect config.tables)

def rowId? (raw : Json) : Option RowId := ((raw.field? "_uuid").map Wire.decode).bind Json.text?

def rowIds (result : Json) : List RowId := (((result.field? "rows").bind Json.items?).getD []).filterMap rowId?

/-- No table in a reply lists two rows of one id. -/
def DistinctIds (config : OvsdbConfig) (reply : Reply) : Prop :=
  ∀ results ∈ (readResults config.remote reply).toOption, ∀ result ∈ results, (rowIds result).Nodup

instance (config : OvsdbConfig) (reply : Reply) : Decidable (DistinctIds config reply) :=
  inferInstanceAs (Decidable (∀ results ∈ (readResults config.remote reply).toOption,_))

section Decoding

theorem forall₂_of_mapM {α β ε : Type} {f : α → Except ε β} {xs : List α} {ys : List β}
    (mapped : xs.mapM f = .ok ys) : List.Forall₂ (fun x y => f x = .ok y) xs ys := by
  induction xs generalizing ys with
  | nil => cases mapped; exact .nil
  | cons x xs ih =>
    rw [List.mapM_cons] at mapped
    cases head : f x with
    | error e => rw [head] at mapped; cases mapped
    | ok y =>
      cases tail : xs.mapM f with
      | error e => rw [head,tail] at mapped; cases mapped
      | ok rest =>
        rw [head,tail] at mapped
        cases mapped
        exact .cons head (ih tail)

private theorem exists_of_forall₂ {α β : Type} {r : α → β → Prop} {xs : List α} {ys : List β}
    (related : List.Forall₂ r xs ys) {y : β} (member : y ∈ ys) : ∃ x ∈ xs, r x y := by
  induction related with
  | nil => cases member
  | @cons x _ _ _ head _ ih =>
    rcases List.mem_cons.mp member with rfl | inside
    · exact ⟨x,List.mem_cons_self,head⟩
    · obtain ⟨source,present,relation⟩ := ih inside
      exact ⟨source,List.mem_cons_of_mem _ present,relation⟩

private theorem rowId?_of_decodeRow {raw : Json} {row : Row} (decoded : Wire.decodeRow raw = .ok row) :
    rowId? raw = some row.id := by
  unfold Wire.decodeRow at decoded
  unfold rowId? Json.field?
  split at decoded
  next => cases decoded
  next fields listed =>
    split at decoded
    next id found =>
      cases decoded
      rw [listed,Option.bind_some,found]
      rfl
    next => cases decoded

private theorem ids_of_mapM {raws : List Json} {rows : List Row}
    (decoded : List.Forall₂ (fun raw row => Wire.decodeRow raw = .ok row) raws rows) :
    raws.filterMap rowId? = rows.map (·.id) := by
  induction decoded with
  | nil => rfl
  | cons head _ ih => rw [List.filterMap_cons_some (rowId?_of_decodeRow head),ih,List.map_cons]

private theorem addressed_decodeTable {name : String} {result : Json} {table : TableSnapshot}
    (distinct : (rowIds result).Nodup) (decoded : Wire.decodeTable name result = .ok table) :
    table.Addressed ∧ table.table = name := by
  unfold Wire.decodeTable at decoded
  split at decoded
  next => cases decoded
  next raws listed =>
    cases mapped : raws.mapM Wire.decodeRow with
    | error e => rw [mapped] at decoded; cases decoded
    | ok rows =>
      rw [mapped] at decoded
      cases decoded
      rw [rowIds,listed,Option.getD_some,ids_of_mapM (forall₂_of_mapM mapped)] at distinct
      exact ⟨TableSnapshot.addressed_ofRows name distinct,TableSnapshot.table_ofRows name rows⟩

private theorem decodeTable_of_decodeSelect {tables : List String} {results : List Json}
    {cache : KeyMap TableSnapshot} (decoded : Wire.decodeSelect tables results = .ok cache) {name : String}
    {table : TableSnapshot} (held : cache.get? name = some table) :
    ∃ result ∈ results, Wire.decodeTable name result = .ok table := by
  unfold Wire.decodeSelect at decoded
  split at decoded
  next => cases decoded
  next =>
    cases mapped : (tables.zip results).mapM
        (fun e => (Wire.decodeTable e.1 e.2).map (e.1,·)) with
    | error e => rw [mapped] at decoded; cases decoded
    | ok entries =>
      rw [mapped] at decoded
      cases decoded
      obtain ⟨⟨name',result⟩,member,read⟩ :=
        exists_of_forall₂ (forall₂_of_mapM mapped) (KeyMap.mem_of_get?_ofList held)
      cases whole : Wire.decodeTable name' result with
      | error e => rw [whole] at read; cases read
      | ok _ =>
        rw [whole] at read
        cases read
        exact ⟨result,(List.of_mem_zip member).2,whole⟩

theorem orderly_decodeReply {config : OvsdbConfig} {reply : Reply} {cache : KeyMap TableSnapshot}
    (distinct : DistinctIds config reply) (decoded : decodeReply config reply = .ok cache) : Orderly cache := by
  intro name table held
  unfold decodeReply at decoded
  cases read : readResults config.remote reply with
  | error e => rw [read] at decoded; cases decoded
  | ok results =>
    rw [read] at decoded
    obtain ⟨result,member,whole⟩ := decodeTable_of_decodeSelect decoded held
    exact addressed_decodeTable (distinct results (by rw [read]; rfl) result member) whole

end Decoding

section Sequence

def understood (config : OvsdbConfig) (replies : List Reply) : List (KeyMap TableSnapshot) :=
  replies.filterMap fun reply => (decodeReply config reply).toOption

/-- The tables of the last success, the latest reply first. -/
def lastSuccess (config : OvsdbConfig) (replies : List Reply) : Option (KeyMap TableSnapshot) :=
  (understood config replies).head?

/-- Digests tell the tables in these replies apart. -/
def Distinguished (config : OvsdbConfig) (replies : List Reply) : Prop :=
  ∀ a ∈ understood config replies, ∀ b ∈ understood config replies,
    ContentDigest.ofJson (cacheJson a) = ContentDigest.ofJson (cacheJson b) →
    (cacheJson a).compact = (cacheJson b).compact

instance (config : OvsdbConfig) (replies : List Reply) : Decidable (Distinguished config replies) :=
  inferInstanceAs (Decidable (∀ a ∈ understood config replies,_))

/-- Whether tables differ from those of the last success, if there was one. -/
def Changed (last : Option (KeyMap TableSnapshot)) (cache : KeyMap TableSnapshot) : Prop :=
  ∀ old, last = some old → ¬SameTables old cache

/-- What a replica remembers of the replies to its runs. -/
structure Remembers (config : OvsdbConfig) (replies : List Reply) (r : Replica) : Prop where
  configured : r.config = config
  digested : r.digest = (lastSuccess config replies).map fun cache => ContentDigest.ofJson (cacheJson cache)
  held : ∀ cache, lastSuccess config replies = some cache → r.cache = cache

variable {ω : Type}

/-- What the client program is about to give back to a run. -/
def Session.answer (s : Session ω) : Reply :=
  let c := s.replica.config
  (s.program.call ["transact",c.remote,(Wire.selectRequest c.database c.tables).compact] s.ensureMonitor.world).1

theorem Session.ensureMonitor_eq (s : Session ω) : ∃ world monitor,
    s.ensureMonitor = {s with world,replica := {s.replica with monitor}} := by
  unfold ensureMonitor
  dsimp only
  split
  · exact ⟨s.world,s.replica.monitor,rfl⟩
  · split
    next monitor world _ => exact ⟨world,some monitor,rfl⟩
    next world _ => exact ⟨world,s.replica.monitor,rfl⟩

theorem Session.run_result (s : Session ω) : s.run.1 = (decodeReply s.replica.config s.answer).map fun _ => () := by
  obtain ⟨world,monitor,ready⟩ := s.ensureMonitor_eq
  unfold run answer decodeReply
  simp only [ready,transact]
  split
  next failed => rw [failed]; rfl
  next read => rw [read]; rfl

/-- A run takes in a reply whole, or leaves all but the monitor as it was. -/
theorem Session.run_replica (s : Session ω) : ∃ monitor, s.run.2.replica =
    match decodeReply s.replica.config s.answer with
    | .error _ => {s.replica with monitor}
    | .ok cache => {s.replica with monitor}.accept cache := by
  obtain ⟨world,monitor,ready⟩ := s.ensureMonitor_eq
  refine ⟨monitor,?_⟩
  unfold run answer decodeReply
  simp only [ready,transact]
  split
  next failed => rw [failed]
  next read => rw [read]

theorem Session.commit_replica (t : Transaction) (s : Session ω) : (s.commit t).2.replica = s.replica := by
  unfold commit
  split <;> rfl

theorem Session.wait_replica (s : Session ω) (timeout : Nat) :
    ∃ monitor, (s.wait timeout).2.replica = {s.replica with monitor} := by
  unfold wait
  split
  · exact ⟨_,rfl⟩
  · exact ⟨_,rfl⟩
  · exact ⟨_,rfl⟩
  · exact ⟨_,rfl⟩

/-- The states of a client, with the replies to its runs so far. Around it the world may change. -/
inductive Runs (program : Program ω) (config : OvsdbConfig) : List Reply → Session ω → Prop
  | connected {world after s} (done : Session.connect program config world = (.ok s,after)) :
      Runs program config [] s
  | run {replies s} (before : Runs program config replies s) : Runs program config (s.answer :: replies) s.run.2
  | commit {replies s} (t) (before : Runs program config replies s) : Runs program config replies (s.commit t).2
  | wait {replies s} (timeout) (before : Runs program config replies s) :
      Runs program config replies (s.wait timeout).2
  | meanwhile {replies s} (world) (before : Runs program config replies s) :
      Runs program config replies {s with world}

variable {program : Program ω} {config : OvsdbConfig} {replies : List Reply} {s : Session ω}

theorem Remembers.monitor {r : Replica} (remembers : Remembers config replies r) (monitor : Option Monitor) :
    Remembers config replies {r with monitor} := ⟨remembers.1,remembers.2,remembers.3⟩

theorem Replica.accept_spec (r : Replica) (cache : KeyMap TableSnapshot) :
    (r.accept cache).config = r.config ∧ (r.accept cache).cache = cache ∧
      (r.accept cache).digest = some (ContentDigest.ofJson (cacheJson cache)) := by
  unfold accept
  dsimp only
  split
  next same => exact ⟨rfl,rfl,same⟩
  next => exact ⟨rfl,rfl,rfl⟩

theorem Replica.version_accept (r : Replica) (cache : KeyMap TableSnapshot) : (r.accept cache).version =
    if r.digest = some (ContentDigest.ofJson (cacheJson cache)) then r.version else r.version + 1 := by
  unfold accept
  dsimp only
  split <;> rfl

theorem Session.connect_replica {world after : ω} (done : Session.connect program config world = (.ok s,after)) :
    ∃ monitor, s.replica = ⟨config,.empty,none,0,monitor⟩ := by
  unfold Session.connect at done
  split at done
  · cases done
  · split at done
    · cases done
    · split at done
      · cases done
      · split at done
        · cases done
          obtain ⟨_,monitor,ready⟩ := Session.ensureMonitor_eq (⟨program,_,⟨config,.empty,none,0,none⟩⟩ : Session ω)
          exact ⟨monitor,by rw [ready]⟩
        · cases done

theorem remembers_connected {world after : ω} (done : Session.connect program config world = (.ok s,after)) :
    Remembers config [] s.replica := by
  obtain ⟨monitor,fresh⟩ := Session.connect_replica done
  rw [fresh]
  exact ⟨rfl,rfl,fun _ success => by cases success⟩

theorem remembers_run (remembers : Remembers config replies s.replica) :
    Remembers config (s.answer :: replies) s.run.2.replica := by
  obtain ⟨monitor,after⟩ := s.run_replica
  rw [after,remembers.configured]
  cases decoded : decodeReply config s.answer with
  | error e =>
    have last : lastSuccess config (s.answer :: replies) = lastSuccess config replies := by
      rw [lastSuccess,understood,List.filterMap_cons_none (by rw [decoded]; rfl)]
      rfl
    exact ⟨remembers.configured,last ▸ remembers.digested,last ▸ remembers.held⟩
  | ok cache =>
    have last : lastSuccess config (s.answer :: replies) = some cache := by
      rw [lastSuccess,understood,List.filterMap_cons_some (by rw [decoded]; rfl)]
      rfl
    obtain ⟨configured,held,digested⟩ := ({s.replica with monitor}).accept_spec cache
    refine ⟨configured.trans remembers.configured,by rw [last]; exact digested,fun success found => ?_⟩
    rw [last] at found
    exact Option.some.inj found ▸ held

theorem remembers_runs (runs : Runs program config replies s) : Remembers config replies s.replica := by
  induction runs with
  | connected done => exact remembers_connected done
  | run _ ih => exact remembers_run ih
  | @commit _ s t _ ih => rw [s.commit_replica t]; exact ih
  | @wait _ s timeout _ ih =>
    obtain ⟨monitor,after⟩ := s.wait_replica timeout
    rw [after]
    exact ih.monitor monitor
  | meanwhile _ _ ih => exact ih

theorem mem_understood {cache : KeyMap TableSnapshot} :
    cache ∈ understood config replies ↔ ∃ reply ∈ replies, decodeReply config reply = .ok cache := by
  rw [understood,List.mem_filterMap]
  refine exists_congr fun reply => and_congr_right fun _ => ?_
  cases decodeReply config reply <;> simp [Except.toOption]

theorem digest_eq_iff (distinct : ∀ reply ∈ replies, DistinctIds config reply)
    (distinguished : Distinguished config replies) {a b : KeyMap TableSnapshot}
    (member_a : a ∈ understood config replies) (member_b : b ∈ understood config replies) :
    ContentDigest.ofJson (cacheJson a) = ContentDigest.ofJson (cacheJson b) ↔ SameTables a b := by
  have orderly {cache} (member : cache ∈ understood config replies) : Orderly cache := by
    obtain ⟨reply,inside,decoded⟩ := mem_understood.mp member
    exact orderly_decodeReply (distinct reply inside) decoded
  rw [← compact_cacheJson_eq_iff (orderly member_a) (orderly member_b)]
  exact ⟨distinguished a member_a b member_b,Json.digest_of_compact⟩

/-- A run that fails leaves tables, digest and version alone. One that succeeds takes in the whole
reply, and moves the version by one exactly when the tables are not those of the last success. -/
theorem version_moves_with_tables (runs : Runs program config replies s)
    (distinct : ∀ reply ∈ s.answer :: replies, DistinctIds config reply)
    (distinguished : Distinguished config (s.answer :: replies)) :
    s.run.1 = (decodeReply config s.answer).map (fun _ => ()) ∧
    (∀ e, s.run.1 = .error e → s.run.2.replica.cache = s.replica.cache ∧
      s.run.2.replica.digest = s.replica.digest ∧ s.run.2.replica.version = s.replica.version) ∧
    (s.run.1 = .ok () → ∃ cache, decodeReply config s.answer = .ok cache ∧ s.run.2.replica.cache = cache ∧
      (Changed (lastSuccess config replies) cache → s.run.2.replica.version = s.replica.version + 1) ∧
      (¬Changed (lastSuccess config replies) cache → s.run.2.replica.version = s.replica.version)) := by
  have remembers := remembers_runs runs
  have result := s.run_result
  obtain ⟨monitor,after⟩ := s.run_replica
  rw [remembers.configured] at result after
  refine ⟨result,?_⟩
  rw [result,after]
  cases decoded : decodeReply config s.answer with
  | error e => exact ⟨fun _ _ => ⟨rfl,rfl,rfl⟩,fun success => nomatch success⟩
  | ok cache =>
    refine ⟨fun _ failed => (nomatch failed),fun _ => ⟨cache,rfl,(Replica.accept_spec _ cache).2.1,?_⟩⟩
    rw [Replica.version_accept]
    cases last : lastSuccess config replies with
    | none =>
      have undigested : s.replica.digest = none := by rw [remembers.digested,last]; rfl
      simp [undigested,Changed]
    | some old =>
      have digested : s.replica.digest = some (ContentDigest.ofJson (cacheJson old)) := by
        rw [remembers.digested,last]; rfl
      have current : cache ∈ understood config (s.answer :: replies) :=
        mem_understood.mpr ⟨s.answer,List.mem_cons_self,decoded⟩
      have earlier : old ∈ understood config (s.answer :: replies) := by
        obtain ⟨reply,member,found⟩ := mem_understood.mp (List.mem_of_head? last)
        exact mem_understood.mpr ⟨reply,List.mem_cons_of_mem _ member,found⟩
      have same : s.replica.digest = some (ContentDigest.ofJson (cacheJson cache)) ↔ SameTables old cache := by
        rw [digested,Option.some.injEq]
        exact digest_eq_iff distinct distinguished earlier current
      -- Equal digests are equal tables here, so the version moves exactly with the tables.
      constructor
      · intro changed
        exact if_neg fun equal => changed old rfl (same.mp equal)
      · intro unchanged
        refine if_pos (same.mpr ?_)
        by_contra differ
        exact unchanged fun _ found => Option.some.inj found ▸ differ

/-- A client program that gives back the listed replies in turn. -/
def scripted : Program (List Reply) where
  fileExists _ _ := true
  call _ replies := (replies.headD (.error .notFound),replies.tail)
  monitor _ replies := (.ok ⟨[],false⟩,replies)

def listing (name : String) : Reply :=
  .ok ⟨some 0,Text.Utf8.encode
    ("[\x7b\"rows\":[\x7b\"_uuid\":[\"uuid\",\"1\"],\"name\":\"" ++ name ++ "\"\x7d]\x7d]"),[]⟩

def listed (name : String) : KeyMap TableSnapshot :=
  .single "Bridge" (.ofRows "Bridge" [⟨"1",.single "name" (.text name)⟩])

def bridgeOnly : OvsdbConfig := {tables := ["Bridge"]}

def scriptedSession : Session (List Reply) :=
  ⟨scripted,[listing "a",listing "b"],⟨bridgeOnly,.empty,none,0,some ⟨[],false⟩⟩⟩

theorem renaming_moves_version :
    scriptedSession.run.2.run.2.replica.version = scriptedSession.run.2.replica.version + 1 := by
  have connected : Session.connect scripted bridgeOnly
      [.ok ⟨some 0,Text.Utf8.encode "Edge",[]⟩,listing "a",listing "b"] =
        (.ok scriptedSession,[listing "a",listing "b"]) := by rfl
  have second : decodeReply bridgeOnly (listing "b") = .ok (listed "b") := by decide +kernel
  have runs : Runs scripted bridgeOnly [listing "a"] scriptedSession.run.2 := .run (.connected connected)
  have answer : scriptedSession.run.2.answer = listing "b" := by decide +kernel
  obtain ⟨result,_,taken⟩ := version_moves_with_tables runs
    (by rw [answer]; decide +kernel) (by rw [answer]; decide +kernel)
  rw [answer,second] at result
  obtain ⟨cache,decoded,_,moved,_⟩ := taken result
  refine moved fun old success same => ?_
  have last : lastSuccess bridgeOnly [listing "a"] = some (listed "a") := by decide +kernel
  cases last.symm.trans success
  cases second.symm.trans (answer ▸ decoded)
  obtain ⟨_,held,_,rows⟩ := same.after
    (show (listed "a").get? "Bridge" = some (.ofRows "Bridge" [⟨"1",.single "name" (.text "a")⟩]) from rfl)
  cases held
  obtain ⟨_,found,_⟩ := rows.after
    (show (TableSnapshot.ofRows "Bridge" [⟨"1",.single "name" (.text "a")⟩]).rows.get? "a" = some _ from rfl)
  cases found

end Sequence

end Hostkeeper.Ovsdb
