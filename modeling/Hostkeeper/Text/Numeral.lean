/-! Integers written in text: ASCII digits after an optional sign, within a limit. The first character that makes
the text wrong decides the error. -/
namespace Hostkeeper.Text

inductive NumeralError where
  | empty
  | invalidDigit
  | tooLarge
  | tooSmall
  deriving Repr, DecidableEq

def NumeralError.message : NumeralError → String
  | .empty => "cannot parse integer from empty string"
  | .invalidDigit => "invalid digit found in string"
  | .tooLarge => "number too large to fit in target type"
  | .tooSmall => "number too small to fit in target type"

/-- Appends digits to a number that must stay within `limit`. -/
def readDigits (limit : Nat) (beyond : NumeralError) : Nat → List Char → Except NumeralError Nat
  | n, [] => .ok n
  | n, c :: rest =>
    if !c.isDigit then .error .invalidDigit
    else if n * 10 + (c.toNat - 48) > limit then .error beyond
    else readDigits limit beyond (n * 10 + (c.toNat - 48)) rest

def readNat (limit : Nat) (s : String) : Except NumeralError Nat :=
  match s.toList with
  | [] => .error .empty
  | ['+'] => .error .invalidDigit
  | '+' :: rest => readDigits limit .tooLarge 0 rest
  | cs => readDigits limit .tooLarge 0 cs

def readInt64 (s : String) : Except NumeralError Int :=
  match s.toList with
  | [] => .error .empty
  | ['+'] | ['-'] => .error .invalidDigit
  | '+' :: rest => (readDigits (UInt64.size / 2 - 1) .tooLarge 0 rest).map Int.ofNat
  | '-' :: rest => (readDigits (UInt64.size / 2) .tooSmall 0 rest).map fun n => -(n : Int)
  | cs => (readDigits (UInt64.size / 2 - 1) .tooLarge 0 cs).map Int.ofNat

end Hostkeeper.Text
