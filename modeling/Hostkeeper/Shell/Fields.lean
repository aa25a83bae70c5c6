import Hostkeeper.Host.Files
import Hostkeeper.Shell.Pattern

/-! From an expanded word to its fields: cutting at separators, and the paths that patterns stand for. A character
keeps whether it was quoted, and whether it came from an expansion that is cut. -/
namespace Hostkeeper.Shell

abbrev Marked := Char × Bool

inductive Cell where
  | char (c : Char) (quoted splits : Bool)
  /-- Makes a field even of nothing. -/
  | mark
  | cut
  | opening (apart : Bool)

def cellsOf (quoted splits : Bool) (s : String) : List Cell :=
  (if splits then [.opening false] else []) ++ s.toList.map fun c => .char c quoted splits

def Cell.marked : List Cell → List Marked
  | [] => []
  | .char c quoted _ :: rest => (c,quoted) :: marked rest
  | _ :: rest => marked rest

def textOf (cs : List Marked) : String := String.ofList (cs.map Prod.fst)

namespace Fields

structure Cutting where
  done : List (List Marked) := []
  current : List Marked := []
  begun : Bool := false
  /-- Whether separators are passed over, and one among them that is no blank. -/
  passing : Option Bool := none
  more : Option Nat
  loose : Nat := 0
  afterBlank : Bool := false
  apart : Bool := false
  /-- Whether the expansion before was; then no separator counts as a blank. -/
  afterApart : Bool := false

def Cutting.finish (k : Cutting) : Cutting :=
  {k with done := k.current.reverse :: k.done, current := [], begun := false, passing := none}

def Cutting.push (k : Cutting) (c : Marked) : Cutting := {k with current := c :: k.current, begun := true}

def Cutting.last (k : Cutting) (c : Marked) (isSeparator isBlank splits : Bool) : Cutting :=
  let longer := if k.loose > 0 then k.loose + 1 else 0
  if !splits then {k.push c with loose := longer}
  else if isBlank then {k.push c with loose := k.loose + 1}
  else {k.push c with loose := if isSeparator && k.afterBlank then longer else 0, afterBlank := false}

def Cutting.take (k : Cutting) (c : Marked) (isSeparator isBlank splits : Bool) : Cutting :=
  if k.more = some 0 then k.last c isSeparator isBlank splits
  else if !isSeparator then k.push c
  else if !k.begun && isBlank then k
  else if k.more = some 1 then {k.push c with more := some 0, loose := 1, afterBlank := isBlank}
  else {k.finish with passing := some isBlank, more := k.more.map (· - 1)}

def Cutting.step (separators : String) (k : Cutting) : Cell → Cutting
  | .mark => {k with begun := true, passing := none}
  | .cut => k.finish
  | .opening apart => {k with apart, afterApart := k.apart, passing := none}
  | .char c quoted splits =>
    let isSeparator := splits && (c = '\x00' || separators.contains c)
    let isBlank := isSeparator && !k.afterApart && (c = ' ' || c = '\t' || c = '\n' || c = '\x00')
    match k.passing with
    | none => k.take (c,quoted) isSeparator isBlank splits
    | some other =>
      if isBlank then k
      else if isSeparator && other then {k with passing := some false}
      else {k with passing := none}.take (c,quoted) isSeparator isBlank splits

def ofCells (separators : String) (limit : Option Nat) (cells : List Cell) : List (List Marked) :=
  let k := cells.foldl (Cutting.step separators) {more := limit}
  let current := k.current.drop k.loose
  (if k.begun && (k.loose = 0 || !current.isEmpty) then current.reverse :: k.done else k.done).reverse

/-! ## Paths -/

def components : List Marked → List (List Marked)
  | [] => [[]]
  | (c,quoted) :: rest =>
    match components rest with
    | [] => [[(c,quoted)]]
    | first :: more => if c = '/' then [] :: first :: more else ((c,quoted) :: first) :: more

def matching (t : FileTree) : String → List (List Marked) → List String
  | opening, [] => [opening]
  | opening, part :: rest =>
    let join (name : String) : String := opening ++ name ++ if rest.isEmpty then "" else "/"
    let glob := Glob.ofChars part
    if Glob.isOpen glob then
      let names := match t.list (if opening.isEmpty then "." else toText opening) with
        | .ok names => names.map ofText
        | .error _ => []
      let hidden := part.head?.any fun c => c.1 = '.'
      let names := if hidden then "." :: ".." :: names else names.filter fun n => !Text.startsWith n "."
      let fits (n : String) : Bool :=
        Glob.accepts glob n.toList && (rest.isEmpty || t.isDir (toText (opening ++ n)))
      (names.filter fits).flatMap fun n => matching t (join n) rest
    else
      let name := String.ofList (glob.filterMap fun
        | .exact c => some c
        | _ => none)
      if !rest.isEmpty || name.isEmpty || t.contains (toText (opening ++ name)) then matching t (join name) rest else []

def paths (t : FileTree) (field : List Marked) : List String :=
  if Glob.isOpen (Glob.ofChars field) then
    match matching t "" (components field) with
    | [] => [textOf field]
    | found => found.mergeSort fun a b => decide (a ≤ b)
  else [textOf field]

end Fields

end Hostkeeper.Shell
