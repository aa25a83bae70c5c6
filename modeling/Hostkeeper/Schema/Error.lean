import Hostkeeper.Json.Printer
import Hostkeeper.Text.Blank

/-! The tables of the desired state, the types of their columns, and what can be wrong with a row. -/
namespace Hostkeeper

inductive Table where
  | system
  | interface
  | storage
  | virtualMachine
  | telemetry
  deriving DecidableEq, Repr

def Table.name : Table → String
  | .system => "System"
  | .interface => "Interface"
  | .storage => "Storage"
  | .virtualMachine => "VirtualMachine"
  | .telemetry => "Telemetry"

/-- How the rows of a table are addressed: by name, by row id, or not at all. -/
inductive Addressing where
  | keyed
  | unkeyed
  | singleton
  deriving DecidableEq, Repr

inductive ColumnType where
  | text
  | word16
  | word32
  | word64
  | int64
  | real
  deriving DecidableEq, Repr

def ColumnType.name : ColumnType → String
  | .text => "a string"
  | .word16 => "u16"
  | .word32 => "u32"
  | .word64 => "u64"
  | .int64 => "i64"
  | .real => "f64"

inductive ColumnFault where
  | wrongType (found : Json) (wanted : ColumnType)
  | outOfRange (found : Int) (wanted : ColumnType)
  | unknownWord (column : String) (found : String)
  | neitherTextNorTexts
  deriving DecidableEq, Repr

def Json.describe : Json → String
  | .null => "null"
  | .bool b => "boolean `" ++ (if b then "true" else "false") ++ "`"
  | .int n => "integer `" ++ toString n ++ "`"
  | .real x => "floating point `" ++ String.ofList (x.write Json.numberLayout) ++ "`"
  | .text s => "string " ++ Text.quoted s
  | .list _ => "sequence"
  | .object _ => "map"

inductive SchemaError where
  | invalidRow (table : Table) (fault : ColumnFault)
  /-- A row of a keyed table has no name. -/
  | emptyName (table : Table)
  | missingField (table : Table) (field : String)
  | invalidValue (field : String) (value : String)
  deriving DecidableEq, Repr

def invalidValueMessage (field value : String) : String :=
  "invalid value " ++ Text.quoted value ++ " for `" ++ field ++ "`"

def ColumnFault.message : ColumnFault → String
  | .wrongType found wanted => "invalid type: " ++ found.describe ++ ", expected " ++ wanted.name
  | .outOfRange found wanted =>
    "invalid value: integer `" ++ toString found ++ "`, expected " ++ wanted.name
  | .unknownWord column found => invalidValueMessage column found
  | .neitherTextNorTexts => "data did not match any variant of untagged enum OneOrMany"

def SchemaError.message : SchemaError → String
  | .invalidRow table fault => "invalid " ++ table.name ++ " row: " ++ fault.message
  | .emptyName table => table.name ++ " row has an empty name"
  | .missingField table field => table.name ++ " row is missing required field `" ++ field ++ "`"
  | .invalidValue field value => invalidValueMessage field value

end Hostkeeper
