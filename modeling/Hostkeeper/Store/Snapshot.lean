import Hostkeeper.Schema.Record

/-! Rows, and snapshots of tables. A snapshot holds its rows under their names, a row without a name under its
row id; decoding a snapshot accounts for every row, as a record or as a rejected row. -/
namespace Hostkeeper

abbrev RowId := String

structure Row where
  id : RowId
  fields : Fields
  deriving DecidableEq

def Row.get? (row : Row) (column : String) : Option Json := Column.set? row.fields column

def Row.name? (row : Row) : Option String :=
  ((row.get? "name").bind Json.text?).bind fun name => if name.isEmpty then none else some name

/-- The key of a row in a snapshot. -/
def Row.key (row : Row) : String := row.name?.getD row.id

structure TableSnapshot where
  table : String
  rows : KeyMap Row
  deriving DecidableEq

structure TypedRow (α : Type) where
  id : RowId
  /-- The name in a keyed table, the row id in any other. -/
  key : String
  value : α
  deriving DecidableEq

structure RejectedRow where
  id : RowId
  key : String
  name : Option String
  error : SchemaError
  deriving DecidableEq

structure Decoded (α : Type) where
  rows : List (TypedRow α)
  rejected : List RejectedRow

def Decoded.rejectedNames {α : Type} (d : Decoded α) : List String := d.rejected.filterMap (·.name)

namespace TableSnapshot

def empty (table : String) : TableSnapshot := ⟨table,.empty⟩

/-- Adds a row; it takes the place of a row with the same key. -/
def insert (s : TableSnapshot) (row : Row) : TableSnapshot := {s with rows := s.rows.insert row.key row}

def ofRows (table : String) (rows : List Row) : TableSnapshot := rows.foldl insert (empty table)

def get? (s : TableSnapshot) (key : String) : Option Row := s.rows.get? key

def toList (s : TableSnapshot) : List Row := s.rows.values

def first? (s : TableSnapshot) : Option Row := s.toList.head?

def decodeEntry {α : Type} [Record α] (entry : String × Row) : Except RejectedRow (TypedRow α) :=
  match decodeRow entry.2.fields with
  | .ok value =>
    let key :=
      if Record.addressing α = .keyed then (Record.name value).getD entry.1 else entry.2.id
    .ok ⟨entry.2.id,key,value⟩
  | .error error => .error ⟨entry.2.id,entry.1,entry.2.name?,error⟩

def decode {α : Type} [Record α] (s : TableSnapshot) : Decoded α :=
  let results := s.rows.entries.map (decodeEntry (α := α))
  ⟨results.filterMap fun | .ok row => some row | .error _ => none,
   results.filterMap fun | .ok _ => none | .error row => some row⟩

def typed (α : Type) [Record α] (s : TableSnapshot) : List (TypedRow α) := (decode (α := α) s).rows

def singleton (α : Type) [Record α] (s : TableSnapshot) : Option (TypedRow α) := (s.typed α).head?

end TableSnapshot

end Hostkeeper
