import Hostkeeper.Shell.Numeral

/-! Tests of texts, numbers and files, as the shell's `test` reads them. An argument that looks like an operator is
one only where an operand cannot stand. -/
namespace Hostkeeper.Shell.Test

inductive TestError where
  | missingBracket
  | unexpectedOperator (text : String)
  | argumentExpected (operator : String)
  | bracketExpected
  | illegalNumber (text : String)

def TestError.message : TestError → String
  | .missingBracket => "missing ]"
  | .unexpectedOperator text => if text.isEmpty then "unexpected operator" else text ++ ": unexpected operator"
  | .argumentExpected operator => operator ++ ": argument expected"
  | .bracketExpected => "closing paren expected"
  | .illegalNumber text => "Illegal number: " ++ text

inductive Kind where
  | unary
  | binary
  | negation
  | both
  | either
  | opening
  | closing
  deriving DecidableEq

def kind? (s : String) : Option Kind :=
  if ["-r","-w","-x","-e","-f","-d","-c","-b","-p","-u","-g","-k","-s","-t","-z","-n","-h","-O","-G",
      "-L","-S"].contains s then some .unary
  else if ["=","!=","<",">","-eq","-ne","-ge","-gt","-le","-lt","-nt","-ot","-ef"].contains s then
    some .binary
  else
    match s with
    | "!" => some .negation
    | "-a" => some .both
    | "-o" => some .either
    | "(" => some .opening
    | ")" => some .closing
    | _ => none

inductive Item where
  | nothing
  | operand
  | operator (kind : Kind)
  deriving DecidableEq

/-- The arguments of a test, and what it asks of files: the letter of the question and the path. -/
structure Setting where
  args : List String
  holds : Char → String → Bool

def Setting.item (s : Setting) (i : Nat) : Item :=
  match s.args[i]? with
  | none => .nothing
  | some text =>
    match kind? text with
    | none => .operand
    | some kind =>
      let isOperand : Bool :=
        match s.args[i + 1]?, s.args[i + 2]? with
        | none, _ => true
        | some _, none => false
        | some next, some _ => kind? next = some .binary
      if (kind = .unary && isOperand) || (kind = .opening && s.args[i + 1]?.isNone) then .operand
      else .operator kind

abbrev Reading := StateT Nat (Except TestError)

def number (s : String) : Reading Int :=
  match integer? true s with
  | some n => pure n
  | none => throw (.illegalNumber s)

def unary (s : Setting) (operator arg : String) : Reading Bool := do
  match operator with
  | "-z" => return arg.isEmpty
  | "-n" => return !arg.isEmpty
  | "-t" =>
    let _ ← number arg
    return false
  | operator => return s.holds ((operator.toList.getLast?).getD 'e') arg

def binary (operator a b : String) : Reading Bool := do
  match operator with
  | "=" => return a = b
  | "!=" => return a ≠ b
  | "<" => return a < b
  | ">" => return b < a
  | "-nt" | "-ot" | "-ef" => return false
  | operator =>
    let a ← number a
    let b ← number b
    return match operator with
      | "-eq" => decide (a = b)
      | "-ne" => decide (a ≠ b)
      | "-ge" => decide (a ≥ b)
      | "-gt" => decide (a > b)
      | "-le" => decide (a ≤ b)
      | _ => decide (a < b)

mutual

def alternatives (s : Setting) : Nat → Item → Reading Bool
  | 0, _ => return false
  | fuel + 1, item => do
    let first ← conditions s fuel item
    if s.item ((← get) + 1) = .operator .either then
      modify (· + 2)
      let rest ← alternatives s fuel (s.item (← get))
      return first || rest
    else return first

def conditions (s : Setting) : Nat → Item → Reading Bool
  | 0, _ => return false
  | fuel + 1, item => do
    let first ← condition s fuel item
    if s.item ((← get) + 1) = .operator .both then
      modify (· + 2)
      let rest ← conditions s fuel (s.item (← get))
      return first && rest
    else return first

def condition (s : Setting) : Nat → Item → Reading Bool
  | 0, _ => return false
  | fuel + 1, item => do
    if item = .operator .negation then
      let next := s.item ((← get) + 1)
      if next ≠ .nothing then modify (· + 1)
      return !(← condition s fuel next)
    else primary s fuel item

def primary (s : Setting) : Nat → Item → Reading Bool
  | 0, _ => return false
  | fuel + 1, item => do
    let here := (s.args[← get]?).getD ""
    match item with
    | .nothing => return false
    | .operator .opening => do
      modify (· + 1)
      let first := s.item (← get)
      if first = .operator .closing then return false
      else
        let inside ← alternatives s fuel first
        modify (· + 1)
        if s.item (← get) = .operator .closing then return inside else throw .bracketExpected
    | .operator .unary => do
      modify (· + 1)
      match s.args[← get]? with
      | some arg => unary s here arg
      | none => throw (.argumentExpected here)
    | _ =>
      if s.item ((← get) + 1) = .operator .binary then do
        modify (· + 1)
        let operator := (s.args[← get]?).getD ""
        modify (· + 1)
        match s.args[← get]? with
        | some arg => binary operator here arg
        | none => throw (.argumentExpected operator)
      else return !here.isEmpty

end

def whole (s : Setting) (item : Item) : Except TestError Bool := do
  let (result,place) ← (alternatives s (4 * s.args.length + 8) item).run 0
  match s.args[place]?, s.args[place + 1]? with
  | some text, some _ => .error (.unexpectedOperator text)
  | _, _ => return result

/-- Answers a test; few arguments are read by their number. `fuel` bounds the negations. -/
def answer (holds : Char → String → Bool) : Nat → List String → Except TestError Bool
  | 0, _ => return false
  | fuel + 1, args => do
    let s : Setting := ⟨args,holds⟩
    let bracketed := args.head? = some "(" && args.getLast? = some ")"
    if args.isEmpty then return false
    else if args.length = 3 && (args[1]?.bind kind?) = some .binary then whole s .operand
    else if (args.length = 3 || args.length = 4) && bracketed then
      let s : Setting := ⟨args.tail.dropLast,holds⟩
      whole s (s.item 0)
    else if (args.length = 3 || args.length = 4) && args.head? = some "!" then
      return !(← answer holds fuel args.tail)
    else whole s (s.item 0)

def run (holds : Char → String → Bool) (name : String) (args : List String) : Except TestError Bool :=
  if name = "[" then
    if args.getLast?.any (·.toList.head? = some ']') then answer holds (args.length + 1) args.dropLast
    else .error .missingBracket
  else answer holds (args.length + 1) args

end Hostkeeper.Shell.Test
