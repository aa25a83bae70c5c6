import Hostkeeper.Schema.Record
import Hostkeeper.Store.Transaction
import Hostkeeper.Text.Numeral

/-! Setting one field of a row of the desired state: the text that an operator gives becomes a value of the
field's type, and goes into the row of that name, or into a new row. -/
namespace Hostkeeper

inductive Resource where
  | interface
  | system
  | vm
  deriving DecidableEq, Repr

def Resource.all : List Resource := [.interface,.system,.vm]

def Resource.label : Resource → String
  | .interface => "interface"
  | .system => "system"
  | .vm => "vm"

def Resource.table : Resource → Table
  | .interface => .interface
  | .system => .system
  | .vm => .virtualMachine

def Resource.ofLabel? (s : String) : Option Resource := Resource.all.find? fun r => r.label = s

inductive Misfit where
  | numeral (error : Text.NumeralError)
  | vlanTooLarge
  | word (error : SchemaError)
  deriving DecidableEq, Repr

def Misfit.message : Misfit → String
  | .numeral error => error.message
  | .vlanTooLarge => "VLAN id must be at most 4094"
  | .word error => error.message

inductive SettingError where
  | unknownField (resource : Resource) (key : String)
  | invalidValue (key value : String) (reason : Misfit)
  deriving DecidableEq, Repr

def SettingError.message : SettingError → String
  | .unknownField resource key => "unknown " ++ resource.label ++ " field `" ++ key ++ "`"
  | .invalidValue key value reason =>
    "invalid value for `" ++ key ++ "`: " ++ Text.quoted value ++ " (" ++ reason.message ++ ")"

namespace Setting

def takeNat (limit : Nat) (raw : String) : Except Misfit Nat :=
  (Text.readNat limit (Text.trim raw)).mapError .numeral

/-- A VLAN id: twelve bits, the last one reserved. -/
def takeVlan (raw : String) : Except Misfit Nat := do
  let vlan ← takeNat (UInt16.size - 1) raw
  if vlan > 4094 then .error .vlanTooLarge else return vlan

def takeWord (α : Type) [Word α] (raw : String) : Except Misfit Json :=
  match Word.read (α := α) raw with
  | .ok w => .ok (.text (Word.text w))
  | .error e => .error (.word e)

def takeList (raw : String) : List String := (Text.splitOn ',' raw).filterMap Text.trimmed?

def natJson (n : Nat) : Json := .int n

def reader? : Resource → String → Option (String → Except Misfit Json)
  | .interface, "ip" => some (.ok <| .text ·)
  | .interface, "state" => some (takeWord LinkState)
  | .interface, "mtu" => some fun raw => (takeNat (UInt32.size - 1) raw).map natJson
  | .interface, "vlan" => some fun raw => (takeVlan raw).map natJson
  | .system, "hostname" | .system, "timezone" => some (.ok <| .text ·)
  | .system, "logging_level" => some (takeWord LogLevel)
  | .vm, "cpu" => some fun raw => (takeNat (UInt32.size - 1) raw).map natJson
  | .vm, "ram" => some fun raw => (takeNat (UInt64.size - 1) raw).map natJson
  | .vm, "disk_path" => some (.ok <| .text ·)
  | .vm, "state" => some (takeWord PowerState)
  | .vm, "pci_passthrough" => some fun raw => .ok (.list ((takeList raw).map .text))
  | _, _ => none

def coerce (resource : Resource) (key raw : String) : Except SettingError Json :=
  match reader? resource key with
  | none => .error (.unknownField resource key)
  | some read => (read raw).mapError (.invalidValue key raw)

/-- The row to write to. There is one system row at most; other rows go by name. -/
def target? (resource : Resource) (name : String) (snapshot : TableSnapshot) : Option Row :=
  match resource with
  | .system => snapshot.first?
  | _ => snapshot.toList.find? (·.name? = some name)

/-- The transaction that sets a field. A new row gets its name along with the field. -/
def upsert (resource : Resource) (name : String) (snapshot : TableSnapshot) (key : String) (value : Json) :
    Transaction :=
  let existing := target? resource name snapshot
  let fresh := if existing.isNone && resource ≠ .system then [("name",Json.text name)] else []
  ⟨[.upsert resource.table.name (existing.map (·.id)) (.ofList (fresh ++ [(key,value)]))]⟩

end Setting

end Hostkeeper
