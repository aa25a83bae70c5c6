import Hostkeeper.Proofs.Store.Rows
import Hostkeeper.Store.Ovsdb

/-! A server behind the client program, as far as a transaction goes that adds and updates rows of tables
that the server knows. No operation of such a transaction fails, so its result is kept; an update that
finds no row is no failure but counts none. -/
namespace Hostkeeper

namespace Json

theorem fields?_ofFields (m : Fields) : (ofFields m).fields? = some m := by
  rw [ofFields,fields?,KeyMap.ofList_entries]

theorem field?_ofFields (m : Fields) (name : String) : (ofFields m).field? name = m.get? name := by
  rw [field?,fields?_ofFields]
  rfl

end Json

namespace Ovsdb

open Memory

/-- The condition that picks the row of an id. -/
def rowCondition (id : RowId) : Json :=
  .list [.list [.text "_uuid",.text "==",.list [.text "uuid",.text id]]]

/-- Whether an operation of a request picks the row of an id. -/
def Names (operations : List Json) (id : RowId) : Prop :=
  ∃ operation ∈ operations, operation.field? "where" = some (rowCondition id)

def insertedAs (id : RowId) : Json := .object [("uuid",.list [.text "uuid",.text id])]

def counted (count : Int) : Json := .object [("count",.int count)]

/-- One operation of a server, with its result. An insertion adds a row under an id that stands neither in
the store nor in the request. An update sets columns of the row that it picks, if it is there. -/
inductive Executes (named : RowId → Prop) : Json → Tables → Json → Tables → Prop
  | insert (operation table columns before) (id : RowId) (kind : operation.field? "op" = some (.text "insert"))
      (target : operation.field? "table" = some (.text table))
      (row : (operation.field? "row").bind Json.fields? = some columns)
      (known : before.contains table) (fresh : ¬Held before id) (unnamed : ¬named id) :
      Executes named operation before (insertedAs id) (putRow before table id columns)
  | update (operation table columns before) (id : RowId) (kind : operation.field? "op" = some (.text "update"))
      (target : operation.field? "table" = some (.text table))
      (condition : operation.field? "where" = some (rowCondition id))
      (row : (operation.field? "row").bind Json.fields? = some columns) (known : before.contains table) :
      Executes named operation before (counted (if (row? before table id).isSome then 1 else 0))
        (mergeRow before table id columns)

inductive ExecutesAll (named : RowId → Prop) : List Json → Tables → List Json → Tables → Prop
  | nil (tables) : ExecutesAll named [] tables [] tables
  | cons (operation operations before middle after result results)
      (first : Executes named operation before result middle)
      (rest : ExecutesAll named operations middle results after) :
      ExecutesAll named (operation :: operations) before (result :: results) after

/-- A transaction of a server of one database. -/
def Serves (database : String) (request : Json) (before : Tables) (results : List Json) (after : Tables) : Prop :=
  ∃ operations, request = .list (.text database :: operations) ∧
    ExecutesAll (Names operations) operations before results after

/-- The client program passes a request on to a server, whose tables are part of the world, and gives its
results back. -/
def Session.Reaches {ω : Type} (s : Session ω) (tablesOf : ω → Tables) (request : Json) : Prop :=
  ∃ results, (s.transact request).1 = .ok results ∧
    Serves s.replica.config.database request (tablesOf s.world) results (tablesOf (s.transact request).2.world)

def insertColumns (fields : Fields) : Fields :=
  (fields.filter fun _ value => !value.isNull).map fun _ value => Wire.encode value

def updateColumns (fields : Fields) : Fields := fields.map fun _ value => Wire.encode value

section Requests

variable (table : String) (id : RowId) (fields : Fields)

theorem field?_insertRequest (name : String) : (Wire.writeRequest (.insert table fields)).field? name =
    lookupEntry name [("row",.ofFields (insertColumns fields)),("table",.text table),("op",.text "insert")] := by
  change (Json.ofFields (.ofList _)).field? name = _
  rw [Json.field?_ofFields,KeyMap.get?_ofList]
  rfl

theorem field?_updateRequest (name : String) : (Wire.writeRequest (.update table id fields)).field? name =
    lookupEntry name [("row",.ofFields (updateColumns fields)),("where",rowCondition id),
      ("table",.text table),("op",.text "update")] := by
  change (Json.ofFields (.ofList _)).field? name = _
  rw [Json.field?_ofFields,KeyMap.get?_ofList]
  rfl

end Requests

variable {named : RowId → Prop} {before after : Tables} {table : String} {fields : Fields} {result : Json}

theorem executes_insert_iff : Executes named (Wire.writeRequest (.insert table fields)) before result after ↔
    before.contains table ∧ ∃ id, ¬Held before id ∧ ¬named id ∧ result = insertedAs id ∧
      after = putRow before table id (insertColumns fields) := by
  constructor
  · intro done
    generalize request : Wire.writeRequest (.insert table fields) = operation at done
    cases done with
    | insert name columns _ id kind target row known fresh unnamed =>
      subst request
      rw [field?_insertRequest] at target row
      obtain rfl : table = name := by simpa [lookupEntry] using target
      obtain rfl : insertColumns fields = columns := by simpa [lookupEntry,Json.fields?_ofFields] using row
      exact ⟨known,id,fresh,unnamed,rfl,rfl⟩
    | update name columns _ id kind =>
      subst request
      rw [field?_insertRequest] at kind
      simp [lookupEntry] at kind
  · rintro ⟨known,id,fresh,unnamed,rfl,rfl⟩
    refine .insert _ table _ before id ?_ ?_ ?_ known fresh unnamed <;> rw [field?_insertRequest]
    · rfl
    · rfl
    · exact Json.fields?_ofFields _

theorem executes_update_iff {id : RowId} :
    Executes named (Wire.writeRequest (.update table id fields)) before result after ↔
    before.contains table ∧ result = counted (if (row? before table id).isSome then 1 else 0) ∧
      after = mergeRow before table id (updateColumns fields) := by
  constructor
  · intro done
    generalize request : Wire.writeRequest (.update table id fields) = operation at done
    cases done with
    | insert name columns _ other kind =>
      subst request
      rw [field?_updateRequest] at kind
      simp [lookupEntry] at kind
    | update name columns _ other kind target condition row known =>
      subst request
      rw [field?_updateRequest] at target row condition
      obtain rfl : table = name := by simpa [lookupEntry] using target
      obtain rfl : id = other := by simpa [lookupEntry,rowCondition] using condition
      obtain rfl : updateColumns fields = columns := by simpa [lookupEntry,Json.fields?_ofFields] using row
      exact ⟨known,rfl,rfl⟩
  · rintro ⟨known,rfl,rfl⟩
    refine .update _ table _ before id ?_ ?_ ?_ ?_ known <;> rw [field?_updateRequest]
    · rfl
    · rfl
    · rfl
    · exact Json.fields?_ofFields _

end Ovsdb

end Hostkeeper
