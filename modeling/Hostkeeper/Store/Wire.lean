import Hostkeeper.Store.Client

/-! The wire form of the store's data and requests. A datum is an atom, or a pair of a tag and a body: a row
reference, a set or a map. An empty set and an unset column are one thing, so null travels as an empty set. -/
namespace Hostkeeper.Wire

mutual

/-- Plain JSON for a datum. A pair that is no tagged datum stands for itself. -/
def decode : Json → Json
  | .list [.text "uuid",.text id] => .text id
  | .list [.text "named-uuid",.text id] => .text id
  | .list [.text "set",.list []] => .null
  | .list [.text "set",.list (item :: items)] => .list (decode item :: decodeItems items)
  | .list [.text "map",.list pairs] => .ofFields (.ofList (decodePairs pairs))
  | value => value

def decodeItems : List Json → List Json
  | [] => []
  | item :: items => decode item :: decodeItems items

/-- The entries of a map; what is no pair is left out, and a key that is no text stands as its JSON text. -/
def decodePairs : List Json → List (String × Json)
  | [] => []
  | .list [key,value] :: pairs =>
    (match decode key with
      | .text s => s
      | other => other.compact,decode value) :: decodePairs pairs
  | _ :: pairs => decodePairs pairs

end

mutual

def encode : Json → Json
  | .null => .list [.text "set",.list []]
  | .list items => .list [.text "set",.list (encodeItems items)]
  | .object fields => .list [.text "map",.list (encodePairs fields)]
  | atom => atom

def encodeItems : List Json → List Json
  | [] => []
  | item :: items => encode item :: encodeItems items

def encodePairs : List (String × Json) → List Json
  | [] => []
  | (key,value) :: fields => .list [.text key,encode value] :: encodePairs fields

end

/-- The columns of a row to insert; unset columns are left out. -/
def encodeInsert (fields : Fields) : Json :=
  .ofFields ((fields.filter fun _ value => !value.isNull).map fun _ value => encode value)

def encodeUpdate (fields : Fields) : Json := .ofFields (fields.map fun _ value => encode value)

private def objectOf (fields : List (String × Json)) : Json := .ofFields (.ofList fields)

def selectRequest (database : String) (tables : List String) : Json :=
  .list (.text database :: tables.map fun table =>
    objectOf [("op",.text "select"),("table",.text table),("where",.list [])])

def writeRequest : Write → Json
  | .insert table fields =>
    objectOf [("op",.text "insert"),("table",.text table),("row",encodeInsert fields)]
  | .update table id fields =>
    objectOf [("op",.text "update"),("table",.text table),
      ("where",.list [.list [.text "_uuid",.text "==",.list [.text "uuid",.text id]]]),
      ("row",encodeUpdate fields)]

def transactRequest (database : String) (t : Transaction) : Json :=
  .list (.text database :: t.writes.map writeRequest)

def errorText (error : Json) (results : List Json) : String :=
  let details := ((results.findSome? (·.field? "details")).bind Json.text?).getD ""
  let text := error.text?.getD "unknown error"
  if details.isEmpty then text else text ++ ": " ++ details

def rowVanished : Write × Json → Bool
  | (.update ..,result) => result.field? "count" = some (.int 0)
  | (.insert ..,_) => false

def commitStatus (t : Transaction) (results : List Json) : CommitStatus :=
  match results.findSome? (·.field? "error") with
  | some error => .error (errorText error results)
  | none =>
    if results.length < t.writes.length then
      .error ("expected " ++ toString t.writes.length ++ " results, got " ++ toString results.length)
    else if (t.writes.zip results).any rowVanished then .tryAgain
    else .success

/-- A row as the store sends it; columns that start with an underscore are the store's own. -/
def decodeRow (raw : Json) : Except StoreError Row :=
  match raw.fields? with
  | none => .error (.protocol (.rowNotObject raw))
  | some fields =>
    match (fields.get? "_uuid").map decode with
    | some (.text id) =>
      .ok ⟨id,(fields.filter fun column _ => !Text.startsWith column "_").map fun _ value => decode value⟩
    | _ => .error (.protocol (.rowWithoutId raw))

def decodeTable (table : String) (result : Json) : Except StoreError TableSnapshot :=
  match (result.field? "rows").bind Json.items? with
  | none => .error (.protocol (.noRows table))
  | some rows => (rows.mapM decodeRow).map (.ofRows table)

def decodeSelect (tables : List String) (results : List Json) : Except StoreError (KeyMap TableSnapshot) :=
  match results.findSome? (·.field? "error") with
  | some error => .error (.protocol (.selectFailed error))
  | none =>
    ((tables.zip results).mapM fun (table,result) => (decodeTable table result).map (table,·)).map .ofList

end Hostkeeper.Wire
