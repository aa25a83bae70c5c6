import Hostkeeper.Proofs.Store.Rows

/-! Commits on a store in memory: in what order the answers are tried, and that a transaction is
applied whole or leaves nothing behind. What a write does is told by the rows before and after it. -/
namespace Hostkeeper

theorem Write.isEmpty_iff {w : Write} : w.isEmpty ↔ ∃ table id, w = .update table id .empty := by
  cases w with
  | insert table fields => simp [isEmpty]
  | update table id fields => simp [isEmpty,KeyMap.isEmpty,KeyMap.ext_iff,KeyMap.empty]

/-- A transaction is empty if none of its writes adds a row or sets a column. -/
theorem Transaction.isEmpty_iff {t : Transaction} :
    t.isEmpty ↔ ∀ w ∈ t.writes, ∃ table id, w = .update table id .empty := by
  simp only [isEmpty,List.all_eq_true,Write.isEmpty_iff]

namespace Memory

/-- Writes made in order. An insertion adds one row under an id that was not in use; an update sets
its columns on a row that is there. No other row and no other column changes. -/
inductive Applied : (RowId → Prop) → List Write → Tables → Tables → Prop
  | nil (used tables) : Applied used [] tables tables
  | insert (used writes table fields before middle after) (id : RowId) (fresh : ¬used id)
      (known : before.contains table) (kept : ∀ name, middle.contains name = before.contains name)
      (rows : ∀ name i, row? middle name i =
        if name = table ∧ i = id then some fields else row? before name i)
      (rest : Applied (fun i => used i ∨ i = id) writes middle after) :
      Applied used (.insert table fields :: writes) before after
  | update (used writes table id fields before middle after) (old new : Fields)
      (found : row? before table id = some old)
      (columns : ∀ column, new.get? column = (fields.get? column).or (old.get? column))
      (kept : ∀ name, middle.contains name = before.contains name)
      (rows : ∀ name i, row? middle name i = if name = table ∧ i = id then some new else row? before name i)
      (rest : Applied used writes middle after) :
      Applied used (.update table id fields :: writes) before after

namespace Database

/-- Whether a write finds the table or the row that it acts on. -/
def Fits (db : Database) : Write → Prop
  | .insert table _ => db.tables.contains table
  | .update table id _ => (row? db.tables table id).isSome

instance (db : Database) : DecidablePred db.Fits
  | .insert table _ => inferInstanceAs (Decidable (db.tables.contains table = true))
  | .update table id _ => inferInstanceAs (Decidable ((row? db.tables table id).isSome = true))

def verdict : Write → CommitStatus
  | .insert table _ => .error ("unknown table " ++ table)
  | .update .. => .tryAgain

def logged (db : Database) (t : Transaction) : Database := {db with commits := db.commits ++ [t]}

theorem misfit_eq (db : Database) (w : Write) : db.misfit w = if db.Fits w then none else some (verdict w) := by
  cases w with
  | insert table fields => rfl
  | update table id fields =>
    change (if db.hasRow table id then none else some CommitStatus.tryAgain) = _
    rw [hasRow_eq]
    rfl

/-- What fits goes on to fit, as no write takes a table or a row away. -/
theorem Fits.applyWrite {db : Database} {w : Write} (fits : db.Fits w) (x : Write) : (db.applyWrite x).Fits w := by
  cases x with
  | insert table fields =>
    cases w with
    | insert name _ =>
      change (putRow db.tables table (rowId (db.lastId + 1)) fields).contains name
      rw [contains_putRow,show db.tables.contains name from fits,Bool.or_true]
    | update name i _ =>
      change (row? (putRow db.tables table (rowId (db.lastId + 1)) fields) name i).isSome
      rw [row?_putRow]
      split
      · rfl
      · exact fits
  | update table id fields =>
    cases w with
    | insert name _ =>
      change (mergeRow db.tables table id fields).contains name
      rw [contains_mergeRow]
      exact fits
    | update name i _ =>
      change (row? (mergeRow db.tables table id fields) name i).isSome
      rw [isSome_row?_mergeRow]
      exact fits

theorem applied_applyWrites (writes : List Write) (db : Database) (used : RowId → Prop)
    (unused : ∀ n, db.lastId < n → ¬used (rowId n)) (fits : ∀ w ∈ writes, db.Fits w) :
    Applied used writes db.tables (writes.foldl applyWrite db).tables := by
  -- Only ids above the counter have to be unused, and each insertion moves the counter past its own.
  induction writes generalizing db used with
  | nil => exact .nil used db.tables
  | cons w rest ih =>
    have head : db.Fits w := fits w List.mem_cons_self
    have tail : ∀ x ∈ rest, (db.applyWrite w).Fits x := fun x member =>
      (fits x (List.mem_cons_of_mem _ member)).applyWrite w
    cases w with
    | insert table fields =>
      refine .insert used rest table fields db.tables (db.addRow table fields).tables _ (rowId (db.lastId + 1))
        (unused _ (Nat.lt_succ_self _)) head ?_ (row?_putRow db.tables table _ fields) (ih _ _ ?_ tail)
      · intro name
        change (putRow db.tables table (rowId (db.lastId + 1)) fields).contains name = _
        rw [contains_putRow]
        by_cases same : name = table
        · rw [same,show db.tables.contains table from head,Bool.or_true]
        · rw [decide_eq_false same,Bool.false_or]
      · rintro n above (taken | same)
        · exact unused n (Nat.lt_of_succ_lt above) taken
        · have numbers : n = db.lastId + 1 := rowId_injective same
          exact Nat.lt_irrefl _ (numbers ▸ above)
    | update table id fields =>
      obtain ⟨old,found⟩ := Option.isSome_iff_exists.mp (show (row? db.tables table id).isSome from head)
      refine .update used rest table id fields db.tables (db.setColumns table id fields).tables _ old
        (old.merge fields) found (KeyMap.get?_merge old fields) (contains_mergeRow db.tables table id fields) ?_
        (ih _ _ unused tail)
      intro name i
      rw [show (db.setColumns table id fields).tables = mergeRow db.tables table id fields from rfl,
        row?_mergeRow,found]
      rfl

theorem foldl_applyWrite_eq (writes : List Write) (db : Database) : writes.foldl applyWrite db =
    {db with tables := (writes.foldl applyWrite db).tables, lastId := (writes.foldl applyWrite db).lastId} := by
  induction writes generalizing db with
  | nil => rfl
  | cons w rest ih =>
    rw [List.foldl_cons,ih (db.applyWrite w)]
    cases w <;> rfl

/-- The order in which the answers are tried. -/
theorem commit_eq (db : Database) (t : Transaction) : db.commit t =
    match db.forcedStatus with
    | some status => (status,db.logged t)
    | none => if t.isEmpty then (.unchanged,db.logged t) else (db.logged t).apply t := rfl

theorem commit_free {db : Database} (free : db.forcedStatus = none) (t : Transaction) :
    db.commit t = if t.isEmpty then (.unchanged,db.logged t) else (db.logged t).apply t := by
  rw [commit_eq,free]

theorem apply_misfit (db : Database) {t : Transaction} {before after : List Write} {w : Write}
    (writes : t.writes = before ++ w :: after) (fit : ∀ x ∈ before, db.Fits x) (misfit : ¬db.Fits w) :
    db.apply t = (verdict w,db) := by
  have none_before : before.findSome? db.misfit = none := by
    rw [List.findSome?_eq_none_iff]
    intro x member
    rw [misfit_eq,if_pos (fit x member)]
  have first : t.writes.findSome? db.misfit = some (verdict w) := by
    rw [writes,List.findSome?_append,none_before,List.findSome?_cons,misfit_eq,if_neg misfit]
    rfl
  unfold apply
  rw [first]

theorem apply_fitting (db : Database) {t : Transaction} (fit : ∀ w ∈ t.writes, db.Fits w) :
    db.apply t = (.success,(t.writes.foldl applyWrite db).bump) := by
  have none : t.writes.findSome? db.misfit = none := by
    rw [List.findSome?_eq_none_iff]
    intro w member
    rw [misfit_eq,if_pos (fit w member)]
  unfold apply
  rw [none]

theorem apply_known (db : Database) {t : Transaction} (known : ∀ w ∈ t.writes, db.tables.contains w.table) :
    db.apply t = if ∀ w ∈ t.writes, db.Fits w then (.success,(t.writes.foldl applyWrite db).bump)
      else (.tryAgain,db) := by
  split
  next fit => exact db.apply_fitting fit
  next astray =>
    unfold apply
    cases found : t.writes.findSome? db.misfit with
    | none =>
      refine absurd (fun w member => ?_) astray
      by_contra misfit
      have none := List.findSome?_eq_none_iff.mp found w member
      rw [misfit_eq,if_neg misfit] at none
      cases none
    | some status =>
      obtain ⟨w,member,misfit⟩ := List.exists_of_findSome?_eq_some found
      rw [misfit_eq] at misfit
      split at misfit
      · cases misfit
      next unfit =>
        cases w with
        | insert table fields => exact absurd (known _ member) unfit
        | update table id fields =>
          obtain rfl := Option.some.inj misfit
          rfl

theorem foldl_applyWrite_logged (t : Transaction) (writes : List Write) (db : Database) :
    writes.foldl applyWrite (db.logged t) = (writes.foldl applyWrite db).logged t := by
  induction writes generalizing db with
  | nil => rfl
  | cons w rest ih =>
    have first : (db.logged t).applyWrite w = (db.applyWrite w).logged t := by cases w <;> rfl
    rw [List.foldl_cons,first,ih]
    rfl

theorem tables_foldl_applyWrite_of_isEmpty {writes : List Write} (empty : writes.all Write.isEmpty) (db : Database) :
    (writes.foldl applyWrite db).tables = db.tables := by
  induction writes generalizing db with
  | nil => rfl
  | cons w rest ih =>
    obtain ⟨first,rest⟩ := Bool.and_eq_true_iff.mp empty
    refine (ih rest (db.applyWrite w)).trans ?_
    obtain ⟨table,id,rfl⟩ := Write.isEmpty_iff.mp first
    exact mergeRow_eq_self db.tables table id .empty fun _ _ => rfl

/-- A commit whose writes all fit leaves the tables that they make, also if they write nothing. -/
theorem tables_commit_of_fits {db : Database} {t : Transaction} (free : db.forcedStatus = none)
    (fit : ∀ w ∈ t.writes, db.Fits w) : (db.commit t).2.tables = (t.writes.foldl applyWrite db).tables := by
  rw [commit_free free]
  split
  next empty => exact (tables_foldl_applyWrite_of_isEmpty empty db).symm
  next =>
    rw [(db.logged t).apply_fitting fit,foldl_applyWrite_logged]
    rfl

end Database

/-- A forced status, success included, is answered and nothing is applied. Otherwise a transaction
that writes nothing changes nothing, the first write that does not fit the tables decides the answer
and nothing is applied, and if all fit all are applied in order, under ids that no row has ever had. In
every case the transaction goes on record. -/
theorem commit_applies_all_or_nothing (tables : List String) (s : Session) (t : Transaction) :
    (∀ status, s.db.forcedStatus = some status → s.db.commit t = (status,s.db.logged t)) ∧
    (s.db.forcedStatus = none → t.isEmpty → s.db.commit t = (.unchanged,s.db.logged t)) ∧
    (s.db.forcedStatus = none → ¬t.isEmpty →
      (∀ before w after, t.writes = before ++ w :: after → (∀ x ∈ before, s.db.Fits x) → ¬s.db.Fits w →
        s.db.commit t = (Database.verdict w,s.db.logged t)) ∧
      ((∀ w ∈ t.writes, s.db.Fits w) → ∃ rows lastId,
        s.db.commit t = (.success,{s.db.logged t with tables := rows, lastId, version := s.db.version + 1}) ∧
        Applied (EverHeld tables s) t.writes s.db.tables rows)) := by
  refine ⟨fun status forced => ?_,fun free empty => ?_,fun free filled => ⟨?_,fun fit => ?_⟩⟩
  · rw [Database.commit_eq,forced]
  · rw [Database.commit_free free,if_pos empty]
  · intro before w after writes fit misfit
    rw [Database.commit_free free,if_neg filled]
    exact (s.db.logged t).apply_misfit writes fit misfit
  · have applied := Database.applied_applyWrites t.writes (s.db.logged t) (EverHeld tables s)
      (fun _ above => not_everHeld_of_lt above) fit
    refine ⟨_,(t.writes.foldl Database.applyWrite (s.db.logged t)).lastId,?_,applied⟩
    rw [Database.commit_free free,if_neg filled,(s.db.logged t).apply_fitting fit,Database.foldl_applyWrite_eq]
    rfl

/-- A store whose first row is gone and whose second one is there. -/
def replenished : Session :=
  let added := Call.perform (.insert "Telemetry" .empty) (.new ["Telemetry"])
  Call.perform (.insert "Telemetry" .empty) (Call.perform (.remove "Telemetry" (rowId 1)) added)

def refill : Transaction := ⟨[.insert "Telemetry" .empty,.update "Telemetry" (rowId 2) (.single "temp" (.int 1))]⟩

/-- The id of the row that is gone counts as used, and the transaction is applied. -/
theorem refill_takes_a_new_id : EverHeld ["Telemetry"] replenished (rowId 1) ∧ ∃ rows lastId,
    replenished.db.commit refill =
      (.success,{replenished.db.logged refill with tables := rows, lastId, version := 4}) ∧
    Applied (EverHeld ["Telemetry"] replenished) refill.writes replenished.db.tables rows := by
  have added : Steps (.new ["Telemetry"]) (Call.perform (.insert "Telemetry" .empty) (.new ["Telemetry"])) :=
    .single (.own _ _)
  have later : Steps (Call.perform (.insert "Telemetry" .empty) (.new ["Telemetry"])) replenished :=
    .tail (.single (.own (.remove "Telemetry" (rowId 1)) _)) (.own (.insert "Telemetry" .empty) _)
  refine ⟨⟨_,added,later,"Telemetry",by decide +kernel⟩,?_⟩
  exact ((commit_applies_all_or_nothing ["Telemetry"] replenished refill).2.2 rfl (by decide)).2 (by decide +kernel)

end Memory

end Hostkeeper
