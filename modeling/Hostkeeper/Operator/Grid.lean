import Hostkeeper.Store.Snapshot
import Hostkeeper.Text.Width

/-! Rows as a grid of text: a rule before, between and after the records, a blank on either side of every cell,
and columns as wide as their widest line. -/
namespace Hostkeeper.Grid

abbrev Cell := List (List Char)

mutual

/-- A value as it stands in a cell: a text as itself, a list as its items with commas between them. -/
def cellText : Json → List Char
  | .null => []
  | .text s => s.toList
  | .list items => cellTexts items
  | .bool b => Json.write (.bool b) []
  | .int n => Json.write (.int n) []
  | .real x => Json.write (.real x) []
  | .object fields => Json.write (.object fields) []

def cellTexts : List Json → List Char
  | [] => []
  | [item] => cellText item
  | item :: items => cellText item ++ ',' :: cellTexts items

end

def cell (content : List Char) : Cell := Text.splitWhen (· == '\n') content

def cellWidth (c : Cell) : Nat := (c.map Text.width).foldl max 0

def columns (rows : List Row) : List String :=
  (KeyMap.ofList (rows.flatMap fun row => row.fields.keys.map (·,()))).keys

/-- The records of some rows: a heading and a record for each row, with the row id in front. -/
def records (rows : List Row) : List (List Cell) :=
  let columns := columns rows
  ("_uuid" :: columns).map (cell ·.toList) ::
    rows.map fun row =>
      cell row.id.toList :: columns.map fun column => cell (((row.get? column).map cellText).getD [])

def widths : List (List Cell) → List Nat
  | [] => []
  | [record] => record.map cellWidth
  | record :: rest => List.zipWith max (record.map cellWidth) (widths rest)

def rule (widths : List Nat) : List Char :=
  '+' :: widths.flatMap fun w => List.replicate (w + 2) '-' ++ ['+']

def padded (width : Nat) (line : List Char) : List Char :=
  ' ' :: line ++ List.replicate (width - Text.width line) ' ' ++ [' ','|']

def recordLines (widths : List Nat) (record : List Cell) : List (List Char) :=
  let height := (record.map List.length).foldl max 0
  (List.range height).map fun i =>
    '|' :: (List.zipWith (fun w content => padded w ((content[i]?).getD [])) widths record).flatten

def lines (records : List (List Cell)) : List (List Char) :=
  let widths := widths records
  rule widths :: records.flatMap fun record => recordLines widths record ++ [rule widths]

def render (rows : List Row) : String :=
  Text.joinWith "\n" ((lines (records rows)).map String.ofList)

end Hostkeeper.Grid
