import Hostkeeper.Json.Basic
import Hostkeeper.Text.Utf8

/-! Taking JSON values apart. Whatever is not of the wanted kind is an error; a field that is absent reads as null. -/
namespace Hostkeeper.Json.Access

abbrev Understood := Except String

def get (v : Json) (name : String) : Json := (v.field? name).getD .null

def asText : Json → Understood String
  | .text s => .ok s
  | _ => .error "expected a text"

def asNat : Json → Understood Nat
  | .int (.ofNat n) => .ok n
  | _ => .error "expected a number"

def asInt : Json → Understood Int
  | .int n => .ok n
  | _ => .error "expected a number"

def asList : Json → Understood (List Json)
  | .list items => .ok items
  | .null => .ok []
  | _ => .error "expected a list"

def unlessNull {α : Type} (read : Json → Understood α) (v : Json) : Understood (Option α) :=
  if v.isNull then .ok none else (read v).map some

def text (v : Json) (name : String) : Understood String := asText (get v name)

def text? (v : Json) (name : String) : Understood (Option String) := unlessNull asText (get v name)

def nat? (v : Json) (name : String) : Understood (Option Nat) := unlessNull asNat (get v name)

def nat (v : Json) (name : String) (default : Nat) : Understood Nat := do return (← nat? v name).getD default

def list (v : Json) (name : String) : Understood (List Json) := asList (get v name)

def texts (v : Json) (name : String) : Understood (List String) := do (← list v name).mapM asText

def flag (v : Json) (name : String) : Bool := get v name = .bool true

def fieldsOf (v : Json) : Fields := v.fields?.getD .empty

def hexValue (c : Char) : Nat := if c.isDigit then c.toNat - 48 else c.toLower.toNat - 87

def ofHex : List Char → List UInt8
  | a :: b :: rest => UInt8.ofNat (hexValue a * 16 + hexValue b) :: ofHex rest
  | _ => []

/-- Bytes: those of a text, or hexadecimal digits in a field of their own. -/
def asBytes : Json → Understood (List UInt8)
  | .text s => .ok (Text.Utf8.encode s)
  | v => do return ofHex (← text v "hex").toList

end Hostkeeper.Json.Access
