import Hostkeeper.Shell.Session

/-! The expansion of words: parameters, sums, and the output of commands, which a function given from outside
supplies. `fuel` bounds the nesting. -/
namespace Hostkeeper.Shell

abbrev Capture := Option Command → Action String

namespace Expand

structure Manner where
  fields : Bool
  inner : Bool := false

def home? (m : Machine) (user : String) : Option String :=
  if user = "" then m.value? "HOME" else if user = "root" then some "/root" else none

def leadingTilde (m : Machine) (inAssignment atEnd : Bool) (cs : List Char) : Word :=
  let isEnd (c : Char) : Bool := c = '/' || (inAssignment && c = ':')
  match cs with
  | '~' :: rest =>
    let user := rest.takeWhile fun c => !isEnd c
    let after := rest.drop user.length
    match if after.isEmpty && !atEnd then none else home? m (String.ofList user) with
    | some home => [.text home true,.text (String.ofList after) false]
    | none => [.text (String.ofList cs) false]
  | cs => [.text (String.ofList cs) false]

/-- Replaces the tildes of a word: one at its front, in an assignment also those behind colons. -/
def tildes (m : Machine) (inAssignment : Bool) : Bool → Word → Word
  | _, [] => []
  | front, .text s false :: rest =>
    let pieces := if inAssignment then Text.splitWhen (· = ':') s.toList else [s.toList]
    let words := pieces.zipIdx.map fun (piece,i) =>
      let word := if i > 0 || front then leadingTilde m inAssignment (rest.isEmpty || i + 1 < pieces.length) piece
        else [.text (String.ofList piece) false]
      if i > 0 then .text ":" false :: word else word
    let opens := inAssignment && s.toList.getLast? = some ':'
    words.flatten ++ tildes m inAssignment opens rest
  | _, part :: rest => part :: tildes m inAssignment false rest

/-- What stands between the arguments when they stay apart: a separator that is a blank for every cutting. No
argument holds it. -/
def apart : Char := '\x00'

def apartIn (m : Machine) : Char := if (m.value? "IFS").isSome then apart else ' '

def between (piece : List Cell) : List (List Cell) → List Cell
  | [] => []
  | [cells] => cells
  | cells :: more => cells ++ piece ++ between piece more

def arguments (m : Machine) (star quoted : Bool) (manner : Manner) : List Cell :=
  if !manner.fields || (quoted && star) then between (cellsOf quoted false m.joint) (m.args.map (cellsOf quoted false))
  else if quoted then .opening true :: between [.cut] (m.args.map fun a => .mark :: cellsOf true false a)
  else cellsOf false true (Text.joinWith (String.ofList [apartIn m]) m.args)

inductive Held where
  | none
  | value (text : String)
  | all (star : Bool)

def held (m : Machine) (name : String) : Held :=
  if name = "@" then .all false
  else if name = "*" then .all true
  else match m.param? name with
    | some s => .value s
    | Option.none => .none

def Held.text? (m : Machine) (quoted : Bool) (manner : Manner) : Held → Option String
  | .none => Option.none
  | .value s => some s
  | .all star =>
    let joint := if !manner.fields || (quoted && star) then m.joint
      else String.ofList [if quoted then apart else apartIn m]
    some (Text.joinWith joint m.args)

/-- Takes off the part of a text that a pattern takes at one end. Of arguments that stay apart, the pattern sees
the first one only; what is taken off goes with all that follows. -/
def trim (side : TrimEnd) (longest : Bool) (pattern : List Glob) (s : String) : String :=
  let cs := s.toList
  let first := cs.takeWhile (· ≠ apart)
  let fromFront := List.range (first.length + 1)
  let fromBack := (List.range (cs.length + 1)).reverse
  let accepts (part : List Char) : Bool := Glob.accepts pattern (part.takeWhile (· ≠ apart))
  match side with
  | .front =>
    match (if longest then fromBack else fromFront).find? fun n => accepts (cs.take n) with
    | some n => String.ofList (cs.drop n)
    | none => s
  | .back =>
    match (if longest then fromFront else fromBack).find? fun n => accepts (cs.drop n) with
    | some n => String.ofList (cs.take n)
    | none => s

def withoutLineEnds (s : String) : String := String.ofList (s.toList.reverse.dropWhile (· = '\n')).reverse

def demandSet (name : String) : Action Unit := do
  if (← get).has 'u' then giveUp (name ++ ": parameter not set")

def sum (text : String) : Action Int := do
  let m ← get
  let s : Sum.Setting :=
    {text, value := fun name => (m.value? name).getD ""
     isReadOnly := fun name => (m.vars.get? name).any (·.readOnly)}
  match Sum.eval s with
  | .ok (n,assigned) =>
    assigned.entries.forM fun e => setVariable e.1 (toString e.2)
    return n
  | .error e => giveUp e.message

mutual

def cells (capture : Capture) : Nat → Manner → Word → Action (List Cell)
  | 0, _, _ => throw .endless
  | _ + 1, _, [] => return []
  | fuel + 1, manner, .mark :: .param "@" .value true :: .mark :: rest => do
    let m ← get
    let all := if m.args.isEmpty && manner.fields then [] else .mark :: arguments m false true manner
    return all ++ (← cells capture fuel manner rest)
  | fuel + 1, manner, part :: rest => do
    let first ← partCells capture fuel manner part
    return first ++ (← cells capture fuel manner rest)

def partCells (capture : Capture) : Nat → Manner → Part → Action (List Cell)
  | 0, _, _ => throw .endless
  | fuel + 1, manner, part => do
    match part with
    | .text s quoted => return cellsOf quoted (manner.inner && !quoted && manner.fields) s
    | .mark => return [.mark]
    | .output command quoted =>
      return cellsOf quoted (!quoted && manner.fields) (withoutLineEnds (← capture command))
    | .sum parts quoted =>
      let text ← text capture fuel parts
      return cellsOf quoted (!quoted && manner.fields) (toString (← sum text))
    | .param name use quoted => parameter capture fuel manner name use quoted

def text (capture : Capture) : Nat → Word → Action String
  | 0, _ => throw .endless
  | fuel + 1, word => do
    return textOf (Cell.marked (← cells capture fuel {fields := false} word))

def parameter (capture : Capture) : Nat → Manner → String → ParamUse → Bool → Action (List Cell)
  | 0, _, _, _, _ => throw .endless
  | fuel + 1, manner, name, use, quoted => do
    let m ← get
    let splits := !quoted && manner.fields
    let found := held m name
    let shown : List Cell := match found with
      | .none => cellsOf quoted splits ""
      | .value s => cellsOf quoted splits s
      | .all star => arguments m star quoted manner
    let isSet (orEmpty : Bool) : Bool := match found.text? m quoted manner with
      | none => false
      | some s => !(orEmpty && s.isEmpty)
    let isUnset := found matches .none
    let inner (word : Word) : Action (List Cell) :=
      cells capture fuel {manner with inner := !quoted} (if quoted then word else tildes m false true word)
    match use with
    | .bad => giveUp "Bad substitution"
    | .value =>
      if isUnset then demandSet name
      return shown
    | .length =>
      if isUnset then demandSet name
      return cellsOf quoted splits (toString ((found.text? m quoted {fields := false}).getD "").length)
    | .default orEmpty word => if isSet orEmpty then return shown else inner word
    | .alternative orEmpty word => if isSet orEmpty then inner word else return []
    | .assign orEmpty word =>
      if isSet orEmpty then return shown
      else
        let value ← text capture fuel (if quoted then word else tildes m false true word)
        if !isName name then giveUp (name ++ ": bad variable name")
        setVariable name value
        return cellsOf quoted splits value
    | .demand orEmpty word =>
      if isSet orEmpty then return shown
      else
        let message ← text capture fuel (if quoted then word else tildes m false true word)
        giveUp (name ++ ": " ++
          (if word.isEmpty then "parameter not set" ++ (if orEmpty then " or null" else "") else message))
    | .trim side longest word =>
      match found.text? m quoted manner with
      | none => do
        demandSet name
        return []
      | some s =>
        let pattern := Cell.marked (← cells capture fuel {fields := false} (tildes m false true word))
        let cells := cellsOf quoted splits (trim side longest (Glob.ofChars pattern) s)
        let isApart (cell : Cell) : Bool := cell matches .char '\x00' ..
        return if quoted && found matches .all false && manner.fields then
            .opening true :: cells.map fun cell => if isApart cell then .cut else cell
          else cells

end

def fields (capture : Capture) (fuel : Nat) (word : Word) : Action (List String) := do
  let cells ← cells capture fuel {fields := true} (tildes (← get) false true word)
  let m ← get
  let found := Fields.ofCells m.separators none cells
  return if m.has 'f' then found.map textOf else found.flatMap (Fields.paths m.tree)

def whole (capture : Capture) (fuel : Nat) (inAssignment : Bool) (word : Word) : Action String := do
  text capture fuel (tildes (← get) inAssignment true word)

def pattern (capture : Capture) (fuel : Nat) (word : Word) : Action (List Glob) := do
  return Glob.ofChars (Cell.marked (← cells capture fuel {fields := false} (tildes (← get) false true word)))

end Expand

end Hostkeeper.Shell
