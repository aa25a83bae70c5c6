import Hostkeeper.Decimal.Binary64
import Hostkeeper.Text.Blank

/-! Numbers written in text: digits with an optional point, sign and exponent, or a word for infinity or no
number. The result is the nearest binary64 number, however many digits there are. -/
namespace Hostkeeper.Decimal

private def digitsValue (digits : List Char) : Nat := digits.foldl (fun n c => n * 10 + (c.toNat - 48)) 0

/-- The number nearest to `digits * 10 ^ exponent`; exponents beyond every binary64 number are cut short. -/
def nearest (negative : Bool) (digits : Nat) (exponent : Int) : Binary64 :=
  let size := exponent + ((Nat.toDigits 10 digits).length : Int)
  if digits = 0 || size < -400 then .zero negative
  else if size > 400 then .infinity negative
  else if 0 ≤ exponent then .ofRatio negative (digits * Nat.pow 10 exponent.toNat) 1
  else .ofRatio negative digits (Nat.pow 10 (-exponent).toNat)

def readExponent (cs : List Char) : Option Int :=
  let (negative,digits) := match cs with
    | '-' :: rest => (true,rest)
    | '+' :: rest => (false,rest)
    | rest => (false,rest)
  if digits.isEmpty || !digits.all Char.isDigit then none
  else some (if negative then -(digitsValue digits : Int) else digitsValue digits)

def readUnsigned (negative : Bool) (cs : List Char) : Option Binary64 :=
  let word := cs.map Char.toLower
  if word = "inf".toList || word = "infinity".toList then some (.infinity negative)
  else if word = "nan".toList then some .nan
  else
    let whole := cs.takeWhile Char.isDigit
    let afterWhole := cs.drop whole.length
    let (fraction,rest) := match afterWhole with
      | '.' :: rest => (rest.takeWhile Char.isDigit,rest.dropWhile Char.isDigit)
      | rest => ([],rest)
    if whole.isEmpty && fraction.isEmpty then none
    else
      let exponent := match rest with
        | [] => some 0
        | c :: rest => if c = 'e' || c = 'E' then readExponent rest else none
      exponent.map fun e => nearest negative (digitsValue (whole ++ fraction)) (e - fraction.length)

def read (s : String) : Option Binary64 :=
  match s.toList with
  | '-' :: rest => readUnsigned true rest
  | '+' :: rest => readUnsigned false rest
  | cs => readUnsigned false cs

end Hostkeeper.Decimal
