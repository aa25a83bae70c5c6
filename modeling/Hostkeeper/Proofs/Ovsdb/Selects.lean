import Hostkeeper.Proofs.Ovsdb.Runs

/-! A reply to a run, table by table. Each registered table takes the result at its own place. A reply that lacks
results at its end is not told from one to fewer tables, so the tables that they belong to are dropped. -/
namespace Hostkeeper

section Entries

variable {α : Type} {key : String} {value : α}

theorem lookupEntry_reverse_iff (entries : List (String × α)) :
    lookupEntry key entries.reverse = some value ↔
      ∃ i : Nat, entries[i]? = some (key,value) ∧ ∀ (j : Nat) (other : α), i < j → entries[j]? ≠ some (key,other) := by
  induction entries generalizing value with
  | nil => simp [lookupEntry]
  | cons entry rest ih =>
    rw [List.reverse_cons,lookupEntry_append]
    -- The head comes last in the reversed list, so it is found only where the rest has no entry of the key.
    cases found : lookupEntry key rest.reverse with
    | some last =>
      obtain ⟨place,held,after⟩ := ih.mp found
      rw [Option.some_or,Option.some.injEq]
      constructor
      · rintro rfl
        refine ⟨place + 1,held,fun j other later => ?_⟩
        cases j with
        | zero => exact absurd later (Nat.not_lt_zero _)
        | succ j => exact after j other (Nat.lt_of_succ_lt_succ later)
      · rintro ⟨i,here,none⟩
        cases i with
        | zero => exact absurd held (none (place + 1) last (Nat.succ_pos place))
        | succ i =>
          have also := ih.mpr ⟨i,here,fun j other later => none (j + 1) other (Nat.succ_lt_succ later)⟩
          exact Option.some.inj (found.symm.trans also)
    | none =>
      have absent (j : Nat) (other : α) : rest[j]? ≠ some (key,other) := fun held =>
        lookupEntry_ne_none (List.mem_reverse.mpr (List.mem_of_getElem? held)) found
      rw [Option.none_or]
      constructor
      · intro here
        refine ⟨0,congrArg some (List.mem_singleton.mp (mem_of_lookupEntry here)).symm,fun j other later => ?_⟩
        cases j with
        | zero => exact absurd later (Nat.not_lt_zero _)
        | succ j => exact absent j other
      · rintro ⟨i,here,_⟩
        cases i with
        | zero =>
          obtain rfl := Option.some.inj here
          simp [lookupEntry]
        | succ i => exact absurd here (absent i value)

end Entries

namespace Ovsdb

/-- A result lists rows that can all be read, and they are the rows of the table. -/
def Lists (name : String) (result : Json) (table : TableSnapshot) : Prop :=
  ∃ raws rows, (result.field? "rows").bind Json.items? = some raws ∧
    List.Forall₂ (fun raw row => Wire.decodeRow raw = .ok row) raws rows ∧ table = .ofRows name rows

/-- The result at the last place of a table. -/
def Own (tables : List String) (results : List Json) (name : String) (result : Json) : Prop :=
  ∃ i : Nat, tables[i]? = some name ∧ results[i]? = some result ∧
    ∀ j : Nat, i < j → tables[j]? = some name → results[j]? = none

/-- Every select of a run has its answer in the reply. -/
def AnswersAll (config : OvsdbConfig) (reply : Reply) : Prop :=
  ∃ results, readResults config.remote reply = .ok results ∧ (∀ result ∈ results, result.field? "error" = none) ∧
    ∀ (i : Nat) name, config.tables[i]? = some name →
      ∃ result table, results[i]? = some result ∧ Lists name result table

/-- If the reply is a list of results, it has one for every table. -/
def Enough (config : OvsdbConfig) (reply : Reply) : Prop :=
  ∀ results ∈ (readResults config.remote reply).toOption, config.tables.length ≤ results.length

instance (config : OvsdbConfig) (reply : Reply) : Decidable (Enough config reply) :=
  inferInstanceAs (Decidable (∀ results ∈ (readResults config.remote reply).toOption,_))

theorem own_iff {tables : List String} {results : List Json} {name : String} {result : Json} :
    lookupEntry name (tables.zip results).reverse = some result ↔ Own tables results name result := by
  rw [lookupEntry_reverse_iff]
  refine exists_congr fun i => ?_
  rw [List.getElem?_zip_eq_some,and_assoc]
  refine and_congr_right fun _ => and_congr_right fun _ => ?_
  constructor
  · intro last j after named
    cases at_j : results[j]? with
    | none => rfl
    | some other => exact absurd (List.getElem?_zip_eq_some.mpr ⟨named,at_j⟩) (last j other after)
  · intro last j other after found
    obtain ⟨named,at_j⟩ := List.getElem?_zip_eq_some.mp found
    rw [last j after named] at at_j
    cases at_j

section Decoding

theorem mapM_ok_iff {α β ε : Type} {f : α → Except ε β} {xs : List α} {ys : List β} :
    xs.mapM f = .ok ys ↔ List.Forall₂ (fun x y => f x = .ok y) xs ys := by
  refine ⟨forall₂_of_mapM,fun related => ?_⟩
  induction related with
  | nil => rfl
  | cons head _ ih =>
    rw [List.mapM_cons,head,ih]
    rfl

theorem exists_mapM_iff {α β ε : Type} {f : α → Except ε β} {xs : List α} :
    (∃ ys, xs.mapM f = .ok ys) ↔ ∀ x ∈ xs, ∃ y, f x = .ok y := by
  induction xs with
  | nil => exact ⟨fun _ _ member => (nomatch member),fun _ => ⟨[],rfl⟩⟩
  | cons x xs ih =>
    rw [List.forall_mem_cons,← ih]
    constructor
    · rintro ⟨ys,mapped⟩
      cases mapM_ok_iff.mp mapped with
      | cons head rest => exact ⟨⟨_,head⟩,_,mapM_ok_iff.mpr rest⟩
    · rintro ⟨⟨y,head⟩,ys,rest⟩
      exact ⟨y :: ys,mapM_ok_iff.mpr (.cons head (mapM_ok_iff.mp rest))⟩

theorem map_ok_iff {α β ε : Type} {f : α → β} {result : Except ε α} {y : β} :
    result.map f = .ok y ↔ ∃ x, result = .ok x ∧ f x = y := by
  cases result <;> simp [Except.map]

theorem decodeTable_ok_iff {name : String} {result : Json} {table : TableSnapshot} :
    Wire.decodeTable name result = .ok table ↔ Lists name result table := by
  unfold Wire.decodeTable Lists
  cases (result.field? "rows").bind Json.items? with
  | none => simp
  | some raws =>
    simp only [map_ok_iff,mapM_ok_iff,Option.some.injEq,exists_and_left,exists_eq_left']
    exact exists_congr fun rows => and_congr_right fun _ => eq_comm

theorem decodeSelect_ok_iff {tables : List String} {results : List Json} {cache : KeyMap TableSnapshot} :
    Wire.decodeSelect tables results = .ok cache ↔ (∀ result ∈ results, result.field? "error" = none) ∧
      ∃ entries, List.Forall₂ (fun e entry => entry.1 = e.1 ∧ Lists e.1 e.2 entry.2) (tables.zip results) entries ∧
        cache = .ofList entries := by
  unfold Wire.decodeSelect
  rw [← List.findSome?_eq_none_iff]
  cases results.findSome? (·.field? "error") with
  | some error => simp
  | none =>
    have entry_iff (e : String × Json) (entry : String × TableSnapshot) :
        (∃ table, Lists e.1 e.2 table ∧ (e.1,table) = entry) ↔ entry.1 = e.1 ∧ Lists e.1 e.2 entry.2 := by
      constructor
      · rintro ⟨table,lists,rfl⟩
        exact ⟨rfl,lists⟩
      · rintro ⟨named,lists⟩
        exact ⟨entry.2,lists,Prod.ext named.symm rfl⟩
    simp only [map_ok_iff,mapM_ok_iff,decodeTable_ok_iff,entry_iff,true_and]
    exact exists_congr fun entries => and_congr_right fun _ => eq_comm

variable {tables : List String} {results : List Json} {cache : KeyMap TableSnapshot}

/-- A run can read a reply exactly if no result is an error and each table that has one can read it. -/
theorem exists_decodeSelect_iff : (∃ cache, Wire.decodeSelect tables results = .ok cache) ↔
    (∀ result ∈ results, result.field? "error" = none) ∧
      ∀ (i : Nat) name result, tables[i]? = some name → results[i]? = some result →
        ∃ table, Lists name result table := by
  have placed : (∀ e ∈ tables.zip results, ∃ table, Lists e.1 e.2 table) ↔
      ∀ (i : Nat) name result, tables[i]? = some name → results[i]? = some result →
        ∃ table, Lists name result table := by
    constructor
    · intro each i name result named held
      exact each (name,result) (List.mem_of_getElem? (List.getElem?_zip_eq_some.mpr ⟨named,held⟩))
    · intro each e member
      obtain ⟨i,found⟩ := List.mem_iff_getElem?.mp member
      obtain ⟨named,held⟩ := List.getElem?_zip_eq_some.mp found
      exact each i e.1 e.2 named held
  rw [← placed]
  unfold Wire.decodeSelect
  rw [← List.findSome?_eq_none_iff]
  cases results.findSome? (·.field? "error") with
  | some error => simp
  | none =>
    simp only [map_ok_iff,true_and]
    rw [exists_comm]
    simp only [exists_eq_right',exists_mapM_iff,map_ok_iff,decodeTable_ok_iff]
    refine forall₂_congr fun e _ => ?_
    rw [exists_comm]
    simp only [exists_eq_right']

theorem held_of_decodeSelect (decoded : Wire.decodeSelect tables results = .ok cache) (name : String) :
    Option.Rel (Lists name) (lookupEntry name (tables.zip results).reverse) (cache.get? name) := by
  obtain ⟨_,entries,related,rfl⟩ := decodeSelect_ok_iff.mp decoded
  -- Both lists are searched from the end, as a later entry of a name takes the place of an earlier one.
  have keyed : List.Forall₂ (fun x y => x.1 = y.1 ∧ Lists x.2.1 x.2.2 y.2)
      ((tables.zip results).reverse.map fun e => (e.1,(e.1,e.2))) entries.reverse := by
    rw [List.forall₂_map_left_iff,List.forall₂_reverse_iff]
    exact related.imp fun _ _ both => ⟨both.1.symm,both.2⟩
  have found := lookupEntry_of_forall₂ (r := fun (e : String × Json) table => Lists e.1 e.2 table) keyed name
  rw [lookupEntry_map fun key value => (key,value)] at found
  rw [KeyMap.get?_ofList]
  generalize lookupEntry name (tables.zip results).reverse = own at found
  cases own with
  | none =>
    rw [Option.map_none] at found
    generalize lookupEntry name entries.reverse = held at found
    cases found
    exact .none
  | some result =>
    rw [Option.map_some] at found
    generalize lookupEntry name entries.reverse = held at found
    cases found with
    | some lists => exact .some lists

theorem mem_take_of_own {name : String} {result : Json} (own : Own tables results name result) :
    name ∈ tables.take results.length := by
  obtain ⟨i,named,held,_⟩ := own
  have inside : i < results.length := (List.getElem?_eq_some_iff.mp held).1
  exact List.mem_of_getElem? ((List.getElem?_take_of_lt inside).trans named)

theorem exists_own {name : String} (member : name ∈ tables.take results.length) :
    ∃ result, Own tables results name result := by
  obtain ⟨i,found⟩ := List.mem_iff_getElem?.mp member
  have inside : i < results.length := by
    have bound := (List.getElem?_eq_some_iff.mp found).1
    exact Nat.lt_of_lt_of_le bound (List.length_take_le _ _)
  have named : tables[i]? = some name := (List.getElem?_take_of_lt inside).symm.trans found
  have paired := List.mem_of_getElem? (List.getElem?_zip_eq_some (z := (name,results[i])).mpr
    ⟨named,List.getElem?_eq_getElem inside⟩)
  obtain ⟨result,last⟩ := Option.ne_none_iff_exists'.mp (lookupEntry_ne_none (List.mem_reverse.mpr paired))
  exact ⟨result,own_iff.mp last⟩

/-- The tables that have a result are held, each with the rows of its own one, and no others. -/
theorem get?_of_decodeSelect (decoded : Wire.decodeSelect tables results = .ok cache) (name : String) :
    (name ∈ tables.take results.length →
      ∃ result table, Own tables results name result ∧ Lists name result table ∧ cache.get? name = some table) ∧
    (name ∉ tables.take results.length → cache.get? name = none) := by
  have held := held_of_decodeSelect decoded name
  constructor
  · intro member
    obtain ⟨result,own⟩ := exists_own member
    rw [own_iff.mpr own] at held
    generalize cache.get? name = found at held
    cases held with
    | some lists => exact ⟨result,_,own,lists,rfl⟩
  · intro absent
    cases last : lookupEntry name (tables.zip results).reverse with
    | some result => exact absurd (mem_take_of_own (own_iff.mp last)) absent
    | none =>
      rw [last] at held
      generalize cache.get? name = found at held
      cases held
      rfl

end Decoding

variable {ω : Type} {program : Program ω} {config : OvsdbConfig} {replies : List Reply} {s : Session ω}

theorem decodeReply_ok_iff {reply : Reply} {cache : KeyMap TableSnapshot} : decodeReply config reply = .ok cache ↔
    ∃ results, readResults config.remote reply = .ok results ∧ Wire.decodeSelect config.tables results = .ok cache := by
  unfold decodeReply
  cases readResults config.remote reply with
  | error e => simp [Except.bind]
  | ok results => simp [Except.bind]

theorem answersAll_iff {reply : Reply} (enough : Enough config reply) :
    AnswersAll config reply ↔ ∃ cache, decodeReply config reply = .ok cache := by
  simp only [decodeReply_ok_iff]
  rw [exists_comm]
  refine exists_congr fun results => ?_
  rw [exists_and_left,exists_decodeSelect_iff]
  refine and_congr_right fun read => and_congr_right fun _ => ?_
  have length : config.tables.length ≤ results.length := enough results (by rw [read]; rfl)
  constructor
  · intro answered i name result named held
    obtain ⟨own,table,placed,lists⟩ := answered i name named
    obtain rfl := Option.some.inj (held.symm.trans placed)
    exact ⟨table,lists⟩
  · intro listed i name named
    have inside : i < results.length := Nat.lt_of_lt_of_le (List.getElem?_eq_some_iff.mp named).1 length
    obtain ⟨table,lists⟩ := listed i name results[i] named (List.getElem?_eq_getElem inside)
    exact ⟨results[i],table,List.getElem?_eq_getElem inside,lists⟩

theorem AnswersAll.enough {reply : Reply} (answers : AnswersAll config reply) : Enough config reply := by
  intro results read
  obtain ⟨own,read',_,answered⟩ := answers
  rw [read'] at read
  obtain rfl := Option.some.inj read
  by_contra short
  have inside : own.length < config.tables.length := Nat.lt_of_not_le short
  obtain ⟨_,_,placed,_⟩ := answered own.length _ (List.getElem?_eq_getElem inside)
  rw [List.getElem?_eq_none (Nat.le_refl _)] at placed
  cases placed

theorem cache_run (runs : Runs program config replies s) :
    (∃ e, decodeReply config s.answer = .error e ∧ s.run.1 = .error e ∧ s.run.2.replica.cache = s.replica.cache) ∨
    ∃ cache, decodeReply config s.answer = .ok cache ∧ s.run.1 = .ok () ∧ s.run.2.replica.cache = cache := by
  have configured := (remembers_runs runs).configured
  have result := s.run_result
  obtain ⟨monitor,after⟩ := s.run_replica
  rw [configured] at result after
  cases decoded : decodeReply config s.answer with
  | error e =>
    rw [decoded] at result after
    exact .inl ⟨e,rfl,result,by rw [after]⟩
  | ok cache =>
    rw [decoded] at result after
    exact .inr ⟨cache,rfl,result,by rw [after]; exact (Replica.accept_spec _ cache).2.1⟩

theorem registered_of_runs (runs : Runs program config replies s) {name : String} {table : TableSnapshot}
    (held : s.replica.cache.get? name = some table) : name ∈ config.tables := by
  induction runs with
  | connected done =>
    obtain ⟨monitor,fresh⟩ := Session.connect_replica done
    rw [fresh] at held
    cases held
  | @run _ s before ih =>
    rcases cache_run before with ⟨_,_,_,kept⟩ | ⟨cache,decoded,_,taken⟩
    · exact ih (kept ▸ held)
    · obtain ⟨results,_,selected⟩ := decodeReply_ok_iff.mp decoded
      by_contra other
      have absent := (get?_of_decodeSelect selected name).2 fun member => other (List.mem_of_mem_take member)
      rw [taken,absent] at held
      cases held
  | @commit _ s t _ ih => exact ih (s.commit_replica t ▸ held)
  | @wait _ s timeout _ ih =>
    obtain ⟨monitor,after⟩ := s.wait_replica timeout
    rw [after] at held
    exact ih held
  | meanwhile _ _ ih => exact ih held

theorem table_ok_iff {name : String} {table : TableSnapshot} :
    StoreClient.table s name = .ok table ↔ s.replica.cache.get? name = some table := by
  simp only [StoreClient.table]
  cases s.replica.cache.get? name <;> simp

theorem table_error_iff {name : String} :
    StoreClient.table s name = .error (.unknownTable name) ↔ s.replica.cache.get? name = none := by
  simp only [StoreClient.table]
  cases s.replica.cache.get? name <;> simp

theorem held_of_run (runs : Runs program config replies s) (success : s.run.1 = .ok ()) :
    ∃ results, readResults config.remote s.answer = .ok results ∧ ∀ name,
      (name ∈ config.tables.take results.length → ∃ result table, Own config.tables results name result ∧
        Lists name result table ∧ StoreClient.table s.run.2 name = .ok table) ∧
      (name ∉ config.tables.take results.length → StoreClient.table s.run.2 name = .error (.unknownTable name)) := by
  rcases cache_run runs with ⟨_,_,failed,_⟩ | ⟨cache,decoded,_,taken⟩
  · rw [failed] at success
    cases success
  · obtain ⟨results,read,selected⟩ := decodeReply_ok_iff.mp decoded
    refine ⟨results,read,fun name => ?_⟩
    simp only [table_ok_iff,table_error_iff,taken]
    exact get?_of_decodeSelect selected name

theorem readable_after_run (runs : Runs program config replies s) (enough : Enough config s.answer) {name : String}
    {table : TableSnapshot} (readable : StoreClient.table s name = .ok table) :
    ∃ later, StoreClient.table s.run.2 name = .ok later := by
  have registered := registered_of_runs runs (table_ok_iff.mp readable)
  rcases cache_run runs with ⟨_,_,_,kept⟩ | ⟨_,_,success,_⟩
  · exact ⟨table,table_ok_iff.mpr (kept ▸ table_ok_iff.mp readable)⟩
  · obtain ⟨results,read,held⟩ := held_of_run runs success
    have whole : config.tables.take results.length = config.tables :=
      List.take_of_length_le (enough results (by rw [read]; rfl))
    obtain ⟨_,later,_,_,found⟩ := (held name).1 (whole.symm ▸ registered)
    exact ⟨later,found⟩

/-- A run that fails keeps every table. One that succeeds holds the tables that have a result in the reply, each with
the rows of its own one, and no others. Unless the reply lacks results, it succeeds exactly if every select is answered,
and no table that could be read is lost. -/
theorem selected_tables_are_held (runs : Runs program config replies s) :
    (∀ e, s.run.1 = .error e → s.run.2.replica.cache = s.replica.cache) ∧
    (s.run.1 = .ok () → ∃ results, readResults config.remote s.answer = .ok results ∧ ∀ name,
      (name ∈ config.tables.take results.length → ∃ result table, Own config.tables results name result ∧
        Lists name result table ∧ StoreClient.table s.run.2 name = .ok table) ∧
      (name ∉ config.tables.take results.length → StoreClient.table s.run.2 name = .error (.unknownTable name))) ∧
    (AnswersAll config s.answer → s.run.1 = .ok ()) ∧
    (Enough config s.answer → (s.run.1 = .ok () → AnswersAll config s.answer) ∧
      ∀ name table, StoreClient.table s name = .ok table → ∃ later, StoreClient.table s.run.2 name = .ok later) := by
  refine ⟨?_,held_of_run runs,?_,fun enough => ⟨?_,fun _ _ => readable_after_run runs enough⟩⟩
  · intro e failed
    rcases cache_run runs with ⟨_,_,_,kept⟩ | ⟨_,_,success,_⟩
    · exact kept
    · rw [failed] at success
      cases success
  · intro answers
    obtain ⟨cache,decoded⟩ := (answersAll_iff answers.enough).mp answers
    rcases cache_run runs with ⟨_,other,_,_⟩ | ⟨_,_,success,_⟩
    · rw [decoded] at other
      cases other
    · exact success
  · intro success
    rcases cache_run runs with ⟨_,_,failed,_⟩ | ⟨cache,decoded,_,_⟩
    · rw [failed] at success
      cases success
    · exact (answersAll_iff enough).mpr ⟨cache,decoded⟩

def twoTables : OvsdbConfig := {tables := ["Interface","System"]}

def results (text : String) : Reply := .ok ⟨some 0,Text.Utf8.encode text,[]⟩

def bothListed : Reply :=
  results "[\x7b\"rows\":[]\x7d,\x7b\"rows\":[\x7b\"_uuid\":[\"uuid\",\"1\"],\"hostname\":\"a\"\x7d]\x7d]"

/-- A client of both tables, to whose runs the client program is about to give these replies. -/
def awaiting (replies : List Reply) : Session (List Reply) :=
  ⟨scripted,replies,⟨twoTables,.empty,none,0,some ⟨[],false⟩⟩⟩

theorem runs_awaiting (replies : List Reply) : Runs scripted twoTables [] (awaiting replies) := by
  have connected :
      Session.connect scripted twoTables (results "Edge" :: replies) = (.ok (awaiting replies),replies) := by
    rfl
  exact .connected connected

/-- The rows of the second table are no list. -/
def oneMuddled : Reply := results "[\x7b\"rows\":[]\x7d,\x7b\"rows\":5\x7d]"

/-- There is no result for the second table. -/
def oneMissing : Reply := results "[\x7b\"rows\":[]\x7d]"

def hostTable : TableSnapshot := .ofRows "System" [⟨"1",.single "hostname" (.text "a")⟩]

theorem muddled_reply_keeps_tables :
    let s := (awaiting [bothListed,oneMuddled]).run.2
    StoreClient.table s "System" = .ok hostTable ∧ s.run.1 = .error (.protocol (.noRows "System")) ∧
      ∃ later, StoreClient.table s.run.2 "System" = .ok later := by
  intro s
  have runs : Runs scripted twoTables [bothListed] s := .run (runs_awaiting [bothListed,oneMuddled])
  have readable : StoreClient.table s "System" = .ok hostTable := table_ok_iff.mpr (by decide +kernel)
  have answer : s.answer = oneMuddled := by decide +kernel
  have enough : Enough twoTables s.answer := by rw [answer]; decide +kernel
  obtain ⟨_,_,_,complete⟩ := selected_tables_are_held runs
  exact ⟨readable,by decide +kernel,(complete enough).2 _ _ readable⟩

theorem missing_result_drops_a_table :
    let s := (awaiting [bothListed,oneMissing]).run.2
    "System" ∈ twoTables.tables ∧ StoreClient.table s "System" = .ok hostTable ∧ ¬AnswersAll twoTables s.answer ∧
      s.run.1 = .ok () ∧ StoreClient.table s.run.2 "System" = .error (.unknownTable "System") := by
  intro s
  have answer : s.answer = oneMissing := by decide +kernel
  have short : ¬Enough twoTables s.answer := by rw [answer]; decide +kernel
  exact ⟨by decide,table_ok_iff.mpr (by decide +kernel),fun answers => short answers.enough,by decide +kernel,
    table_error_iff.mpr (by decide +kernel)⟩

end Ovsdb

end Hostkeeper
