import Hostkeeper.Agent.Pattern
import Hostkeeper.Decimal.Reader
import Hostkeeper.Text.Numeral

/-! Log filters: directives with commas between them. A directive is a level, or a target with spans and fields in
brackets and a level after an equals sign; what is not known as a level is a target. The value of a field is a
word for truth, a number or a pattern. -/
namespace Hostkeeper.LogFilter

inductive FilterError where
  | directive
  | level
  | field
  deriving DecidableEq, Repr

def FilterError.causes : FilterError → List String
  | .directive => ["invalid filter directive"]
  | .level => List.replicate 2 ("error parsing level filter: expected one of \"off\", \"error\", \"warn\", " ++
      "\"info\", \"debug\", \"trace\", or a number 0-5")
  | .field => ["invalid field filter: error building NFA","error building NFA","error parsing regex"]

def isLevel (s : String) : Bool :=
  match Text.readNat (UInt64.size - 1) s with
  | .ok n => n ≤ 5
  | .error _ => ["","error","warn","info","debug","trace","off"].contains (Text.lower s)

def isValue (s : List Char) : Bool := (Decimal.read (String.ofList s)).isSome || Pattern.isPattern s

/-- Checks a field: a name, and perhaps a value behind an equals sign. A second such sign ends the value. -/
def checkField (s : List Char) : Except FilterError Unit :=
  match s with
  | [] => .error .directive
  | s =>
    match Text.splitWhen (· = '=') s with
    | _ :: value :: _ => if isValue value then .ok () else .error .field
    | _ => .ok ()

inductive Place where
  | start
  | levelOrTarget
  | span
  | field (start : Nat)
  | fields
  | target
  | level (start : Nat)

def opens (c : Char) : Bool := c = '-' || c = ':' || c = '_' || Text.isLetterOrNumber c

def step (text : List Char) (index : Nat) (c : Char) : Place → Except FilterError Place
  | .start => if c = '[' then .ok .span else if opens c then .ok .levelOrTarget else .error .directive
  | .levelOrTarget =>
    .ok (if c = '=' then .level (index + 1) else if c = '[' then .span else .levelOrTarget)
  | .target => if c = '=' then .ok (.level (index + 1)) else .error .directive
  | .span => .ok (if c = ']' then .target else if c = '\x7b' then .field (index + 1) else .span)
  | .field start =>
    if c = '\x7d' then (checkField ((text.take index).drop start)).map fun _ => .fields else .ok (.field start)
  | .fields => if c = ']' then .ok .target else .error .directive
  | .level start => .ok (.level start)

def steps (text : List Char) : Nat → List Char → Place → Except FilterError Place
  | _, [], place => .ok place
  | index, c :: rest, place => do steps text (index + 1) rest (← step text index c place)

/-- Checks one directive. Blanks around it are skipped, but its parts are counted from the start of the text as
it stands. -/
def checkDirective (s : String) : Except FilterError Unit := do
  match ← steps s.toList 0 (Text.trim s).toList .start with
  | .levelOrTarget | .target => return ()
  | .level start =>
    let level := String.ofList (s.toList.drop start)
    if level = "" || isLevel level then return () else .error .level
  | _ => .error .directive

/-- Checks a filter; pieces that are empty do not count. -/
def check (s : String) : Except FilterError Unit :=
  ((Text.splitOn ',' s).filter (· ≠ "")).forM checkDirective

end Hostkeeper.LogFilter
