import Hostkeeper.Proofs.Ovsdb.Server
import Hostkeeper.Proofs.Store.Commit
import Mathlib.Logic.Equiv.Basic

/-! One transaction on a store in memory and on a server that holds the same rows. Both clients answer
alike. The server keeps every write that finds its row, the store in memory keeps them only if none of
them goes astray. -/
namespace Hostkeeper.Ovsdb

open Memory

/-- What a column of a server reads as, where null is as good as no value. -/
def shown (wire : Option Json) : Json := (wire.map Wire.decode).getD .null

/-- Two rows read alike, once the values of the first have been through the wire form. -/
def RowAlike (kept served : Fields) : Prop :=
  ∀ column, shown ((kept.get? column).map Wire.encode) = shown (served.get? column)

/-- The same rows in both stores, under ids that may differ. -/
structure Agree (ids : Equiv.Perm RowId) (kept served : Tables) : Prop where
  contains_eq : ∀ name, kept.contains name = served.contains name
  rows : ∀ name i, Option.Rel RowAlike (row? kept name i) (row? served name (ids i))

theorem rowAlike_insertColumns (fields : Fields) : RowAlike fields (insertColumns fields) := by
  intro column
  rw [insertColumns,KeyMap.get?_map,KeyMap.get?_filter]
  cases fields.get? column with
  | none => rfl
  | some value => cases value <;> rfl

theorem RowAlike.merge {kept served : Fields} (alike : RowAlike kept served) (fields : Fields) :
    RowAlike (kept.merge fields) (served.merge (updateColumns fields)) := by
  intro column
  rw [updateColumns,KeyMap.get?_merge,KeyMap.get?_merge,KeyMap.get?_map]
  cases fields.get? column with
  | none => exact alike column
  | some value => rfl

section Options

variable {α β γ δ : Type} {r : α → β → Prop} {a : Option α} {b : Option β}

private theorem isSome_eq_of_rel (related : Option.Rel r a b) : a.isSome = b.isSome := by
  cases related <;> rfl

private theorem rel_map {s : γ → δ → Prop} {f : α → γ} {g : β → δ} (related : Option.Rel r a b)
    (map : ∀ {x y}, r x y → s (f x) (g y)) : Option.Rel s (a.map f) (b.map g) := by
  cases related with
  | none => exact .none
  | some relation => exact .some (map relation)

end Options

namespace Agree

variable {ids : Equiv.Perm RowId} {kept served : Tables}

theorem isSome_eq (agree : Agree ids kept served) (name : String) (i : RowId) :
    (row? kept name i).isSome = (row? served name (ids i)).isSome :=
  isSome_eq_of_rel (agree.rows name i)

theorem held (agree : Agree ids kept served) {i : RowId} : Held kept i ↔ Held served (ids i) :=
  exists_congr fun name => by rw [agree.isSome_eq]

/-- Two ids that are not in use, one of either store, may be taken for each other. -/
theorem relabel (agree : Agree ids kept served) {next fresh : RowId} (unused : ¬Held kept next)
    (unheld : ¬Held served fresh) : Agree (ids.trans (Equiv.swap (ids next) fresh)) kept served := by
  have absent {tables : Tables} {i : RowId} (free : ¬Held tables i) (name : String) :
      row? tables name i = none := Option.not_isSome_iff_eq_none.mp fun present => free ⟨name,present⟩
  refine ⟨agree.contains_eq,fun name i => ?_⟩
  rw [Equiv.trans_apply,Equiv.swap_apply_def]
  split
  next same =>
    rw [ids.injective same,absent unused,absent unheld]
    exact .none
  next =>
    split
    next same =>
      have other : ¬Held kept i := fun held => unheld (same ▸ agree.held.mp held)
      rw [absent other,absent fun held => unused (agree.held.mpr held)]
      exact .none
    next => exact agree.rows name i

theorem putRow (agree : Agree ids kept served) (table : String) (i : RowId) (fields : Fields) :
    Agree ids (Memory.putRow kept table i fields) (Memory.putRow served table (ids i) (insertColumns fields)) := by
  refine ⟨fun name => ?_,fun name j => ?_⟩
  · rw [contains_putRow,contains_putRow,agree.contains_eq]
  · simp only [row?_putRow,ids.injective.eq_iff]
    split
    · exact .some (rowAlike_insertColumns fields)
    · exact agree.rows name j

theorem mergeRow (agree : Agree ids kept served) (table : String) (i : RowId) (fields : Fields) :
    Agree ids (Memory.mergeRow kept table i fields) (Memory.mergeRow served table (ids i) (updateColumns fields)) := by
  refine ⟨fun name => ?_,fun name j => ?_⟩
  · rw [contains_mergeRow,contains_mergeRow,agree.contains_eq]
  · simp only [row?_mergeRow,ids.injective.eq_iff]
    split
    next => exact rel_map (agree.rows table i) fun alike => alike.merge fields
    next => exact agree.rows name j

end Agree

/-- A store in memory and a server in the middle of a transaction that began on `base`. Ids that were in
use when it began are the same for both, and the server has a row that the request names if and only if
it had it then. -/
structure Abreast (named : RowId → Prop) (base db : Database) (served : Tables) (ids : Equiv.Perm RowId) : Prop where
  agree : Agree ids db.tables served
  issued : db.Issued
  fixed : ∀ i, Held base.tables i → ids i = i ∧ Held db.tables i
  settled : ∀ table i, named i → (row? served table i).isSome = (row? base.tables table i).isSome

/-- A result of a server that is no error and says whether a write found its row. -/
structure Answers (base : Database) (w : Write) (result : Json) : Prop where
  unfailed : result.field? "error" = none
  vanished : Wire.rowVanished (w,result) = !decide (base.Fits w)

/-- The writes that find their table or row. -/
def fitting (db : Database) (writes : List Write) : List Write := writes.filter (db.Fits ·)

namespace Abreast

variable {named : RowId → Prop} {base db : Database} {served after : Tables} {ids : Equiv.Perm RowId} {result : Json}
  {table : String} {fields : Fields}

theorem refl (issued : base.Issued) (agree : Agree (.refl _) base.tables served) :
    Abreast named base base served (.refl _) :=
  ⟨agree,issued,fun _ held => ⟨rfl,held⟩,fun table i _ => (agree.isSome_eq table i).symm⟩

theorem insert (abreast : Abreast named base db served ids)
    (done : Executes named (Wire.writeRequest (.insert table fields)) served result after) :
    (∃ ids, Abreast named base (db.addRow table fields) after ids) ∧ ∃ id, result = insertedAs id := by
  -- The new row has an id of its own in either store, so the correspondence is mended by one swap.
  obtain ⟨_,id,fresh,unnamed,rfl,rfl⟩ := executes_insert_iff.mp done
  have unused := abreast.issued.not_held (Nat.lt_succ_self db.lastId)
  refine ⟨⟨ids.trans (Equiv.swap (ids (rowId (db.lastId + 1))) id),?_,?_,?_,?_⟩,id,rfl⟩
  · have agree := (abreast.agree.relabel unused fresh).putRow table (rowId (db.lastId + 1)) fields
    rwa [Equiv.trans_apply,Equiv.swap_apply_left] at agree
  · exact (db.later_addRow table fields).issued abreast.issued
  · intro i held
    obtain ⟨same,present⟩ := abreast.fixed i held
    have older : ids i ≠ ids (rowId (db.lastId + 1)) := fun equal => unused (ids.injective equal ▸ present)
    have other : ids i ≠ id := fun equal => fresh (equal ▸ abreast.agree.held.mp present)
    obtain ⟨name,found⟩ := present
    refine ⟨(Equiv.swap_apply_of_ne_of_ne older other).trans same,name,?_⟩
    change (row? (putRow db.tables table _ fields) name i).isSome
    rw [row?_putRow]
    split
    · rfl
    · exact found
  · intro name i asked
    have other : i ≠ id := fun equal => unnamed (equal ▸ asked)
    rw [row?_putRow,if_neg fun both => other both.2]
    exact abreast.settled name i asked

theorem update (abreast : Abreast named base db served ids) {id : RowId} (asked : named id)
    (done : Executes named (Wire.writeRequest (.update table id fields)) served result after) :
    Abreast named base (if base.Fits (.update table id fields) then db.setColumns table id fields else db) after ids ∧
      result = counted (if base.Fits (.update table id fields) then 1 else 0) := by
  obtain ⟨_,rfl,rfl⟩ := executes_update_iff.mp done
  -- The server never makes up an id that the request names, so it still has the row if it ever did.
  have found := abreast.settled table id asked
  by_cases fits : base.Fits (.update table id fields)
  · have present : (row? base.tables table id).isSome := fits
    rw [if_pos fits,if_pos fits,found,if_pos present]
    obtain ⟨same,_⟩ := abreast.fixed id ⟨table,present⟩
    refine ⟨⟨?_,(db.later_setColumns table id fields).issued abreast.issued,?_,?_⟩,rfl⟩
    · have agree := abreast.agree.mergeRow table id fields
      rwa [same] at agree
    · intro i held
      obtain ⟨kept,name,before⟩ := abreast.fixed i held
      refine ⟨kept,name,?_⟩
      change (row? (mergeRow db.tables table id fields) name i).isSome
      rwa [isSome_row?_mergeRow]
    · intro name i needed
      rw [isSome_row?_mergeRow]
      exact abreast.settled name i needed
  · have absent : ¬(row? base.tables table id).isSome := fits
    rw [if_neg fits,if_neg fits,found,if_neg absent,mergeRow_eq_self]
    · exact ⟨abreast,rfl⟩
    · intro row present
      rw [present] at found
      exact absurd found.symm absent

/-- One write on both stores. The memory leaves out what does not fit, and so does the server. -/
theorem write (abreast : Abreast named base db served ids) {w : Write} (known : base.tables.contains w.table)
    (asked : ∀ table id fields, w = .update table id fields → named id)
    (done : Executes named (Wire.writeRequest w) served result after) :
    (∃ ids, Abreast named base (if base.Fits w then db.applyWrite w else db) after ids) ∧ Answers base w result := by
  cases w with
  | insert table fields =>
    obtain ⟨kept,id,rfl⟩ := abreast.insert done
    have fits : base.Fits (.insert table fields) := known
    rw [if_pos fits]
    exact ⟨kept,rfl,(decide_eq_true fits) ▸ rfl⟩
  | update table id fields =>
    obtain ⟨kept,rfl⟩ := abreast.update (asked table id fields rfl) done
    refine ⟨⟨ids,kept⟩,rfl,?_⟩
    by_cases fits : base.Fits (.update table id fields)
    · rw [if_pos fits,decide_eq_true fits]
      rfl
    · rw [if_neg fits,decide_eq_false fits]
      rfl

theorem run (abreast : Abreast named base db served ids) {writes : List Write} {results : List Json}
    (known : ∀ w ∈ writes, base.tables.contains w.table)
    (asked : ∀ table id fields, .update table id fields ∈ writes → named id)
    (done : ExecutesAll named (writes.map Wire.writeRequest) served results after) :
    (∃ ids, Abreast named base ((fitting base writes).foldl Database.applyWrite db) after ids) ∧
      List.Forall₂ (Answers base) writes results := by
  induction writes generalizing db served ids results with
  | nil =>
    cases done
    exact ⟨⟨ids,abreast⟩,.nil⟩
  | cons w rest ih =>
    rw [List.map_cons] at done
    obtain _ | ⟨_,_,_,middle,_,result,results,first,others⟩ := done
    obtain ⟨⟨_,kept⟩,answer⟩ := abreast.write (known w List.mem_cons_self)
      (fun table id fields same => asked table id fields (same ▸ List.mem_cons_self)) first
    obtain ⟨left,answers⟩ := ih kept (fun w member => known w (List.mem_cons_of_mem _ member))
      (fun table id fields member => asked table id fields (List.mem_cons_of_mem _ member)) others
    refine ⟨?_,.cons answer answers⟩
    rw [fitting,List.filter_cons]
    split
    next fits =>
      rw [if_pos (of_decide_eq_true fits)] at left
      exact left
    next unfit =>
      rw [if_neg (fun fits => unfit (decide_eq_true fits))] at left
      exact left

end Abreast

theorem commitStatus_of_answers {base : Database} {writes : List Write} {results : List Json}
    (answers : List.Forall₂ (Answers base) writes results) :
    Wire.commitStatus ⟨writes⟩ results = if ∀ w ∈ writes, base.Fits w then .success else .tryAgain := by
  have told : results.findSome? (·.field? "error") = none ∧
      (writes.zip results).any Wire.rowVanished = decide (¬∀ w ∈ writes, base.Fits w) := by
    induction answers with
    | nil => exact ⟨rfl,(decide_eq_false fun astray => astray nofun).symm⟩
    | cons head _ ih =>
      refine ⟨?_,?_⟩
      · rw [List.findSome?_cons,head.unfailed,ih.1]
      · rw [List.zip_cons_cons,List.any_cons,head.vanished,ih.2]
        simp
  unfold Wire.commitStatus
  rw [told.1]
  dsimp only
  rw [if_neg (answers.length_eq ▸ Nat.lt_irrefl _),told.2]
  by_cases fit : ∀ w ∈ writes, base.Fits w
  · rw [if_pos fit,if_neg (by simpa using fit)]
  · rw [if_neg fit,if_pos (by simpa using fit)]

theorem names_update {writes : List Write} {table : String} {id : RowId} {fields : Fields}
    (member : .update table id fields ∈ writes) : Names (writes.map Wire.writeRequest) id := by
  refine ⟨_,List.mem_map_of_mem member,?_⟩
  rw [field?_updateRequest]
  rfl

theorem Session.commit_of_transact {ω : Type} {s : Session ω} {t : Transaction} {results : List Json}
    (filled : ¬t.isEmpty) (answer : (s.transact (Wire.transactRequest s.replica.config.database t)).1 = .ok results) :
    s.commit t = (.ok (Wire.commitStatus t results),
      (s.transact (Wire.transactRequest s.replica.config.database t)).2) := by
  unfold commit
  rw [if_neg filled]
  change ((s.transact _).1.map _,_) = _
  rw [answer]
  rfl

theorem tables_commit_fitting {db : Database} (free : db.forcedStatus = none) (writes : List Write) :
    (db.commit ⟨fitting db writes⟩).2.tables = ((fitting db writes).foldl Database.applyWrite db).tables :=
  Database.tables_commit_of_fits free fun _ member => of_decide_eq_true (List.mem_filter.mp member).2

theorem fitting_of_fits {db : Database} {writes : List Write} (fit : ∀ w ∈ writes, db.Fits w) :
    fitting db writes = writes := List.filter_eq_self.mpr fun w member => decide_eq_true (fit w member)

/-- Both clients on one transaction, where the stores hold the same rows and all its tables are there. They
answer the same. What the server holds afterwards is what the memory would hold after those
writes only that find their row: so if the answer is a success, the stores hold the same rows again, but
if it is not, nothing has changed in memory, while the server has kept the other writes. -/
theorem commit_agrees_on_fitting_writes {ω : Type} (s : Session ω) (tablesOf : ω → Tables) (m : Memory.Session)
    (t : Transaction) {names : List String} (steps : Steps (.new names) m) (free : m.db.forcedStatus = none)
    (known : ∀ w ∈ t.writes, m.db.tables.contains w.table)
    (agree : Agree (.refl _) m.db.tables (tablesOf s.world))
    (reaches : s.Reaches tablesOf (Wire.transactRequest s.replica.config.database t)) :
    (s.commit t).1 = .ok (m.db.commit t).1 ∧
    ∃ ids, (∀ i, Held m.db.tables i → ids i = i) ∧
      Agree ids (m.db.commit ⟨fitting m.db t.writes⟩).2.tables (tablesOf (s.commit t).2.world) ∧
      ((m.db.commit t).1.isSuccess → Agree ids (m.db.commit t).2.tables (tablesOf (s.commit t).2.world)) ∧
      (¬(m.db.commit t).1.isSuccess → (m.db.commit t).2.tables = m.db.tables) := by
  by_cases empty : t.isEmpty
  · have idle : s.commit t = (.ok .unchanged,s) := if_pos empty
    have nothing : (fitting m.db t.writes).all Write.isEmpty :=
      List.all_eq_true.mpr fun w member => List.all_eq_true.mp empty w (List.mem_filter.mp member).1
    rw [tables_commit_fitting free,Database.tables_foldl_applyWrite_of_isEmpty nothing,Database.commit_free free,
      if_pos empty,idle]
    exact ⟨rfl,.refl _,fun _ _ => rfl,agree,fun _ => agree,fun _ => rfl⟩
  · obtain ⟨results,answer,operations,request,done⟩ := reaches
    obtain rfl : t.writes.map Wire.writeRequest = operations := (List.cons.inj (Json.list.inj request)).2
    obtain ⟨⟨ids,abreast⟩,answers⟩ := (Abreast.refl steps.issued agree).run known
      (fun _ _ _ member => names_update member) done
    have outcome : m.db.commit t = if ∀ w ∈ t.writes, m.db.Fits w
        then (.success,(t.writes.foldl Database.applyWrite (m.db.logged t)).bump)
        else (.tryAgain,m.db.logged t) := by
      rw [Database.commit_free free,if_neg empty]
      exact (m.db.logged t).apply_known known
    rw [Session.commit_of_transact empty answer,commitStatus_of_answers answers,tables_commit_fitting free]
    refine ⟨?_,ids,fun i held => (abreast.fixed i held).1,abreast.agree,?_⟩
    · rw [outcome]
      split <;> rfl
    · by_cases fit : ∀ w ∈ t.writes, m.db.Fits w
      · have whole := abreast.agree
        rw [fitting_of_fits fit,← Database.tables_commit_of_fits free fit] at whole
        exact ⟨fun _ => whole,fun failed => absurd (by rw [outcome,if_pos fit]; rfl) failed⟩
      · rw [outcome,if_neg fit]
        exact ⟨fun succeeded => absurd succeeded Bool.false_ne_true,fun _ => rfl⟩

/-- A client program whose server gives one reply, and holds the given tables after it. -/
def replying (reply : String) (after : Tables) : Program Tables where
  fileExists _ _ := true
  call _ _ := (.ok ⟨some 0,Text.Utf8.encode reply,[]⟩,after)
  monitor _ served := (.ok ⟨[],false⟩,served)

/-- Telemetry with one row, in memory and on a server. -/
def oneRow : Memory.Session := Call.perform (.insert "Telemetry" .empty) (.new ["Telemetry"])

def bothWrites (id : RowId) : Transaction :=
  ⟨[.insert "Telemetry" .empty,.update "Telemetry" id (.single "temp" (.int 42))]⟩

def bothKept (id : RowId) : Tables :=
  mergeRow (putRow oneRow.db.tables "Telemetry" "u1" .empty) "Telemetry" id (.single "temp" (.int 42))

def counting (id : RowId) (count : String) : Session Tables :=
  ⟨replying ("[\x7b\"uuid\":[\"uuid\",\"u1\"]\x7d,\x7b\"count\":" ++ count ++ "\x7d]") (bothKept id),oneRow.db.tables,
    ⟨{tables := ["Telemetry"]},.empty,none,0,none⟩⟩

theorem agree_oneRow : Agree (.refl _) oneRow.db.tables oneRow.db.tables := by
  have new : Agree (.refl _) (Database.new ["Telemetry"]).tables (Database.new ["Telemetry"]).tables := by
    refine ⟨fun _ => rfl,fun name i => ?_⟩
    rw [Database.row?_new,Database.row?_new]
    exact .none
  exact new.putRow "Telemetry" (rowId 1) .empty

theorem held_oneRow {i : RowId} (held : Held oneRow.db.tables i) : i = rowId 1 := by
  obtain ⟨name,present⟩ := held
  change (row? (putRow (Database.new ["Telemetry"]).tables "Telemetry" (rowId 1) .empty) name i).isSome at present
  rw [row?_putRow,Database.row?_new] at present
  split at present
  next same => exact same.2
  next => cases present

theorem reaches_counting (id : RowId) (count : String) (other : id ≠ "u1")
    (read : ((counting id count).transact (Wire.transactRequest "Edge" (bothWrites id))).1 = .ok [insertedAs "u1",
      counted (if (row? (putRow oneRow.db.tables "Telemetry" "u1" .empty) "Telemetry" id).isSome then 1 else 0)]) :
    (counting id count).Reaches (fun served => served) (Wire.transactRequest "Edge" (bothWrites id)) := by
  have fresh : ¬Held oneRow.db.tables "u1" := fun held => absurd (held_oneRow held) (by decide +kernel)
  have unnamed : ¬Names ((bothWrites id).writes.map Wire.writeRequest) "u1" := by
    rintro ⟨operation,member,picks⟩
    obtain rfl | rfl : operation = _ ∨ operation = _ := by simpa [bothWrites] using member
    · rw [field?_insertRequest] at picks
      simp [lookupEntry] at picks
    · rw [field?_updateRequest] at picks
      exact other (by simpa [lookupEntry,rowCondition] using picks)
  refine ⟨_,read,_,rfl,.cons _ _ _ _ _ _ _ (executes_insert_iff.mpr ⟨rfl,"u1",fresh,unnamed,rfl,rfl⟩)
    (.cons _ _ _ _ _ _ _ (executes_update_iff.mpr ⟨rfl,rfl,rfl⟩) (.nil _))⟩

/-- The row that the update picks is there: both clients succeed, and the stores hold the same rows again. -/
theorem counted_update_agrees : ((counting (rowId 1) "1").commit (bothWrites (rowId 1))).1 = .ok .success ∧
    (oneRow.db.commit (bothWrites (rowId 1))).1 = .success ∧
    ∃ ids, ids (rowId 1) = rowId 1 ∧ Agree ids (oneRow.db.commit (bothWrites (rowId 1))).2.tables
      ((counting (rowId 1) "1").commit (bothWrites (rowId 1))).2.world := by
  have reaches := reaches_counting (rowId 1) "1" (by decide +kernel) (by decide +kernel)
  have success : (oneRow.db.commit (bothWrites (rowId 1))).1 = .success := by decide +kernel
  have steps : Steps (.new ["Telemetry"]) oneRow := .single (.own _ _)
  obtain ⟨answer,ids,fixed,_,agree,_⟩ := commit_agrees_on_fitting_writes (counting (rowId 1) "1") (fun served => served)
    oneRow (bothWrites (rowId 1)) steps rfl (by decide +kernel) agree_oneRow reaches
  rw [success] at answer agree
  exact ⟨answer,success,ids,fixed _ ⟨"Telemetry",by decide +kernel⟩,agree rfl⟩

/-- The row that the update picks is gone: both clients say to try again, and the server holds a row more
than the memory. -/
theorem astray_update_keeps_insertion : Agree (.refl _) oneRow.db.tables (counting "gone" "0").world ∧
    (counting "gone" "0").Reaches (fun served => served) (Wire.transactRequest "Edge" (bothWrites "gone")) ∧
    ((counting "gone" "0").commit (bothWrites "gone")).1 = .ok .tryAgain ∧
    (oneRow.db.commit (bothWrites "gone")).1 = .tryAgain ∧
    ∀ ids, ¬Agree ids (oneRow.db.commit (bothWrites "gone")).2.tables
      ((counting "gone" "0").commit (bothWrites "gone")).2.world := by
  have reaches := reaches_counting "gone" "0" (by decide) (by decide +kernel)
  refine ⟨agree_oneRow,reaches,by decide +kernel,by decide +kernel,fun ids agree => ?_⟩
  have source {i : RowId} (present : (row? (bothKept "gone") "Telemetry" i).isSome) : ids.symm i = rowId 1 := by
    refine held_oneRow (agree.held.mpr ⟨"Telemetry",?_⟩)
    rw [Equiv.apply_symm_apply]
    exact present
  have same := (source (i := "u1") (by decide +kernel)).trans (source (i := rowId 1) (by decide +kernel)).symm
  exact absurd (ids.symm.injective same) (by decide +kernel)

end Hostkeeper.Ovsdb
