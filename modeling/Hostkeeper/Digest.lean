import Hostkeeper.Json.Printer
import Hostkeeper.Sha256
import Hostkeeper.Text.Blank
import Hostkeeper.Text.Utf8

/-! Digests of JSON data: the hash of a text that is one for each value, in whatever order its fields came. -/
namespace Hostkeeper

namespace Json

def quote (s : String) : String := (Json.text s).compact

mutual

/-- The text that is hashed: without blanks, the fields of every object in key order. -/
def canonical : Json → String
  | .object fields =>
    let pairs := (KeyMap.ofList (canonicalFields fields)).entries
    "\x7b" ++ Text.joinWith "," (pairs.map fun p => quote p.1 ++ ":" ++ p.2) ++ "\x7d"
  | .list items => "[" ++ Text.joinWith "," (canonicalItems items) ++ "]"
  | .text s => quote s
  | .null => compact .null
  | .bool b => compact (.bool b)
  | .int n => compact (.int n)
  | .real x => compact (.real x)

def canonicalItems : List Json → List String
  | [] => []
  | item :: items => canonical item :: canonicalItems items

def canonicalFields : List (String × Json) → List (String × String)
  | [] => []
  | (key,value) :: fields => (key,canonical value) :: canonicalFields fields

end

end Json

structure ContentDigest where
  text : String
  deriving DecidableEq, Repr

def ContentDigest.ofJson (value : Json) : ContentDigest :=
  let bytes := (Sha256.hash (Text.Utf8.encode value.canonical)).take 16
  ⟨"sha256:" ++ String.ofList (bytes.flatMap fun b => Text.paddedHex 2 b.toNat)⟩

end Hostkeeper
