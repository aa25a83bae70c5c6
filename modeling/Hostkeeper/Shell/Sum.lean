import Hostkeeper.KeyMap
import Hostkeeper.Shell.Numeral

/-! Sums in scripts: integers of 64 bits with the usual operators, assignments among them. What a condition rules
out is read but neither computed nor assigned. -/
namespace Hostkeeper.Shell

inductive SumError where
  | expecting (what text : String)
  | divisionByZero (text : String)
  | illegalNumber (text : String)
  | readOnly (name : String)

def SumError.message : SumError → String
  | .expecting what text => "arithmetic expression: expecting " ++ what ++ ": \"" ++ text ++ "\""
  | .divisionByZero text => "arithmetic expression: division by zero: \"" ++ text ++ "\""
  | .illegalNumber text => "Illegal number: " ++ text
  | .readOnly name => name ++ ": is read only"

namespace Sum

inductive Token where
  | number (value : Int)
  | name (name : String)
  | operator (text : String)
  | strange

/-- The operators, each one before those that it begins with. -/
def operators : List String :=
  ["<<=",">>=","<<",">>","<=",">=","==","!=","&&","||","*=","/=","%=","+=","-=","&=","^=","|=","<",
    ">","=","!","&","|","*","/","%","+","-","^","(",")","~","?",":"]

def tokens : Nat → List Char → List Token
  | 0, _ | _, [] => []
  | fuel + 1, c :: rest =>
    if c = ' ' || c = '\t' || c = '\n' then tokens fuel rest
    else if c.isDigit then
      let n := readNumeral false (c :: rest)
      .number n.clamped :: tokens fuel n.rest
    else if isNameStart c then
      .name (String.ofList ((c :: rest).takeWhile isNameChar)) :: tokens fuel ((c :: rest).dropWhile isNameChar)
    else
      match operators.find? fun o => o.toList.isPrefixOf (c :: rest) with
      | some o => .operator o :: tokens fuel ((c :: rest).drop o.length)
      | none => [.strange]

def rank? (operator : String) : Option Nat :=
  match operator with
  | "*" | "/" | "%" => some 0
  | "+" | "-" => some 1
  | "<<" | ">>" => some 2
  | "<" | "<=" | ">" | ">=" => some 3
  | "==" | "!=" => some 4
  | "&" => some 5
  | "^" => some 6
  | "|" => some 7
  | _ => none

/-- The operator that an assignment applies first, empty if it is plain. -/
def assigned? (operator : String) : Option String :=
  if operator = "=" then some ""
  else if ["<<=",">>=","*=","/=","%=","+=","-=","&=","^=","|="].contains operator then
    some (String.ofList operator.toList.dropLast)
  else none

def ofBool (b : Bool) : Int := if b then 1 else 0

def bitwise (f : UInt64 → UInt64 → UInt64) (a b : Int) : Int :=
  wrap (f (UInt64.ofInt a) (UInt64.ofInt b)).toNat

def result? (operator : String) (a b : Int) : Option Int :=
  let places := (b % 64).toNat
  match operator with
  | "*" => some (wrap (a * b))
  | "/" => if b = 0 then none else some (wrap (a.tdiv b))
  | "%" => if b = 0 then none else some (a.tmod b)
  | "+" => some (wrap (a + b))
  | "-" => some (wrap (a - b))
  | "<<" => some (wrap (a * (Nat.pow 2 places : Nat)))
  | ">>" => some (a.fdiv (Nat.pow 2 places : Nat))
  | "<" => some (ofBool (a < b))
  | "<=" => some (ofBool (a ≤ b))
  | ">" => some (ofBool (a > b))
  | ">=" => some (ofBool (a ≥ b))
  | "==" => some (ofBool (a = b))
  | "!=" => some (ofBool (a ≠ b))
  | "&" => some (bitwise (· &&& ·) a b)
  | "^" => some (bitwise (· ^^^ ·) a b)
  | _ => some (bitwise (· ||| ·) a b)

structure Place where
  rest : List Token
  assigned : KeyMap Int

structure Setting where
  text : String
  value : String → String
  isReadOnly : String → Bool

abbrev Reading := StateT Place (Except SumError)

def peek : Reading (Option Token) := do return (← get).rest.head?

def peekOperator : Reading String := do
  match ← peek with
  | some (.operator o) => return o
  | _ => return ""

def skip : Reading Unit := modify fun p => {p with rest := p.rest.drop 1}

def expecting {α : Type} (s : Setting) (what : String) : Reading α := throw (.expecting what s.text)

def held (s : Setting) (name : String) : Reading Int := do
  match (← get).assigned.get? name with
  | some n => return n
  | none =>
    match integer? false (s.value name) with
    | some n => return n
    | none => throw (.illegalNumber (s.value name))

def compute (s : Setting) (operator : String) (a b : Int) : Reading Int :=
  match result? operator a b with
  | some n => pure n
  | none => throw (.divisionByZero s.text)

mutual

/-- Reads an assignment or a condition; `idle` tells whether its value does not matter. -/
def assignment (s : Setting) : Nat → Bool → Reading Int
  | 0, _ => expecting s "primary"
  | fuel + 1, idle => do
    match (← get).rest with
    | .name name :: .operator o :: rest =>
      match assigned? o with
      | some before => do
        set {← get with rest}
        let right ← assignment s fuel idle
        if idle then return right
        else
          let value ← if before = "" then pure right else compute s before (← held s name) right
          if s.isReadOnly name then throw (.readOnly name)
          modify fun p => {p with assigned := p.assigned.insert name value}
          return value
      | none => condition s fuel idle
    | _ => condition s fuel idle

def condition (s : Setting) : Nat → Bool → Reading Int
  | 0, _ => expecting s "primary"
  | fuel + 1, idle => do
    let test ← either s fuel idle
    if (← peekOperator) = "?" then
      skip
      let yes ← assignment s fuel (idle || test = 0)
      if (← peekOperator) = ":" then
        skip
        let no ← condition s fuel (idle || test ≠ 0)
        return if test ≠ 0 then yes else no
      else expecting s "':'"
    else return test

def either (s : Setting) : Nat → Bool → Reading Int
  | 0, _ => expecting s "primary"
  | fuel + 1, idle => do
    let first ← both s fuel idle
    if (← peekOperator) = "||" then
      skip
      let second ← either s fuel (idle || first ≠ 0)
      return ofBool (first ≠ 0 || second ≠ 0)
    else return first

def both (s : Setting) : Nat → Bool → Reading Int
  | 0, _ => expecting s "primary"
  | fuel + 1, idle => do
    let first ← operand s fuel idle
    let first ← operation s fuel 8 first idle
    if (← peekOperator) = "&&" then
      skip
      let second ← both s fuel (idle || first = 0)
      return ofBool (first ≠ 0 && second ≠ 0)
    else return first

def operation (s : Setting) : Nat → Nat → Int → Bool → Reading Int
  | 0, _, left, _ => return left
  | fuel + 1, limit, left, idle => do
    let o ← peekOperator
    match rank? o with
    | none => return left
    | some rank =>
      if limit ≤ rank then return left
      else
        skip
        let right ← operand s fuel idle
        let right ← operation s fuel rank right idle
        let value ← if idle then pure right else compute s o left right
        operation s fuel limit value idle

/-- Reads a number, a variable, a sum in brackets, or a sign and what it applies to. -/
def operand (s : Setting) : Nat → Bool → Reading Int
  | 0, _ => expecting s "primary"
  | fuel + 1, idle => do
    match ← peek with
    | some (.number n) => do
      skip
      return n
    | some (.name name) => do
      skip
      if idle then return 0 else held s name
    | some (.operator "(") => do
      skip
      let value ← assignment s fuel idle
      if (← peekOperator) = ")" then
        skip
        return value
      else expecting s "')'"
    | some (.operator "+") => do
      skip
      operand s fuel idle
    | some (.operator "-") => do
      skip
      return wrap (-(← operand s fuel idle))
    | some (.operator "!") => do
      skip
      return ofBool ((← operand s fuel idle) = 0)
    | some (.operator "~") => do
      skip
      return -(← operand s fuel idle) - 1
    | _ => expecting s "primary"

end

def eval (s : Setting) : Except SumError (Int × KeyMap Int) := do
  let ts := tokens (s.text.length + 1) s.text.toList
  match ← (assignment s (8 * ts.length + 8) false).run ⟨ts,.empty⟩ with
  | (value,p) => if p.rest.isEmpty then return (value,p.assigned) else throw (.expecting "EOF" s.text)

end Sum

end Hostkeeper.Shell
