import Hostkeeper.Shell.Octets

/-! Integers of 64 bits as scripts write them: decimal, octal after a zero, hexadecimal after `0x`. -/
namespace Hostkeeper.Shell

def greatest : Int := UInt64.size / 2 - 1

def least : Int := -(UInt64.size / 2 : Nat)

def wrap (n : Int) : Int := n.bmod UInt64.size

def digitsValue (base : Nat) (digits : List Char) : Nat :=
  digits.foldl (fun n c => n * base + (hexDigit? c).getD 0) 0

structure Numeral where
  value : Int
  found : Bool
  rest : List Char

def Numeral.fits (n : Numeral) : Bool := least ≤ n.value && n.value ≤ greatest

def Numeral.clamped (n : Numeral) : Int := max least (min greatest n.value)

def readUnsigned (decimal : Bool) (cs : List Char) : Nat × Bool × List Char :=
  let inBase (base : Nat) (isDigit : Char → Bool) (cs : List Char) : Nat × Bool × List Char :=
    (digitsValue base (cs.takeWhile isDigit),!(cs.takeWhile isDigit).isEmpty,cs.dropWhile isDigit)
  let isHex (c : Char) : Bool := (hexDigit? c).isSome
  match cs with
  | '0' :: x :: rest =>
    if decimal then inBase 10 Char.isDigit cs
    else if (x = 'x' || x = 'X') && rest.head?.any isHex then inBase 16 isHex rest
    else inBase 8 isOctal cs
  | cs => inBase 10 Char.isDigit cs

def readNumeral (decimal : Bool) (cs : List Char) : Numeral :=
  let start := cs.dropWhile isSpace
  let negative := start.head? = some '-'
  let (value,found,rest) := readUnsigned decimal
    (if negative || start.head? = some '+' then start.drop 1 else start)
  if found then ⟨if negative then -(value : Int) else value,true,rest⟩ else ⟨0,false,cs⟩

/-- The number that a whole text stands for, blanks around it not counted; nothing stands for zero if
allowed. -/
def integer? (decimal : Bool) (s : String) : Option Int :=
  let n := readNumeral decimal s.toList
  if (n.found || !decimal) && n.fits && (n.rest.dropWhile isSpace).isEmpty then some n.value else none

end Hostkeeper.Shell
