import Hostkeeper.Schema.Word

/-! Reading columns. A column that is absent or null is unset; any other value must fit the column's type. -/
namespace Hostkeeper.Column

def set? (fields : Fields) (column : String) : Option Json :=
  (fields.get? column).bind fun value => if value.isNull then none else some value

def optional {α : Type} (take : Json → Except ColumnFault α) (fields : Fields) (column : String) :
    Except ColumnFault (Option α) :=
  match set? fields column with
  | none => .ok none
  | some value => (take value).map some

def takeText : Json → Except ColumnFault String
  | .text s => .ok s
  | value => .error (.wrongType value .text)

/-- The name column: empty when absent, and a text when present. -/
def name (fields : Fields) : Except ColumnFault String :=
  match fields.get? "name" with
  | none => .ok ""
  | some value => takeText value

def takeWord {α : Type} [Word α] (value : Json) : Except ColumnFault α := do
  let s ← takeText value
  match Word.read? s with
  | some w => .ok w
  | none => .error (.unknownWord (Word.column α) s)

def takeInt (wanted : ColumnType) (least most : Int) : Json → Except ColumnFault Int
  | .int n => if least ≤ n ∧ n ≤ most then .ok n else .error (.outOfRange n wanted)
  | value => .error (.wrongType value wanted)

def takeWord16 (value : Json) : Except ColumnFault UInt16 :=
  (takeInt .word16 0 (UInt16.size - 1 : Nat) value).map fun n => UInt16.ofNat n.toNat

def takeWord32 (value : Json) : Except ColumnFault UInt32 :=
  (takeInt .word32 0 (UInt32.size - 1 : Nat) value).map fun n => UInt32.ofNat n.toNat

def takeWord64 (value : Json) : Except ColumnFault UInt64 :=
  (takeInt .word64 0 (UInt64.size - 1 : Nat) value).map fun n => UInt64.ofNat n.toNat

def takeInt64 (value : Json) : Except ColumnFault Int64 :=
  (takeInt .int64 Int64.minValue.toInt Int64.maxValue.toInt value).map Int64.ofInt

def takeReal : Json → Except ColumnFault Binary64
  | .int n => .ok (.ofInt n)
  | .real x => .ok x
  | value => .error (.wrongType value .real)

/-- Takes one text or a list of texts; null is no text. A store may send a set of one as its element. -/
def takeTexts : Json → Except ColumnFault (List String)
  | .null => .ok []
  | .text s => .ok [s]
  | .list items =>
    match items.mapM Json.text? with
    | some texts => .ok texts
    | none => .error .neitherTextNorTexts
  | _ => .error .neitherTextNorTexts

def texts (fields : Fields) (column : String) : Except ColumnFault (List String) :=
  takeTexts ((fields.get? column).getD .null)

end Hostkeeper.Column
