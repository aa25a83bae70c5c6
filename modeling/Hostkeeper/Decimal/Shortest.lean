import Hostkeeper.Decimal.Binary64

/-! The shortest decimal that reads back as a given number, and its layout as text. Of the decimals with the
fewest digits between the midpoints to the two neighbours the nearest is taken, of two equally near the even
one; a midpoint counts when the significand is even. -/
namespace Hostkeeper

structure Decimal where
  digits : Nat
  exponent : Int
  deriving DecidableEq, Repr

namespace Decimal

/-- The interval of sizes that round to a number, over one denominator. -/
structure Interval where
  low : Nat
  value : Nat
  high : Nat
  den : Nat
  closed : Bool

def interval (x : Binary64) : Interval :=
  let m := x.significand
  let below := if m = Nat.pow 2 52 && x.exponentField > 1 then 4 * m - 1 else 4 * m - 2
  let unit := x.scale - 2
  let up := if 0 ≤ unit then Nat.pow 2 unit.toNat else 1
  ⟨below * up,4 * m * up,(4 * m + 2) * up,if 0 ≤ unit then 1 else Nat.pow 2 (-unit).toNat,m % 2 = 0⟩

/-- The sizes on the grid of `10 ^ exponent` next to the value that lie in the interval: the nearer one. -/
def onGrid (i : Interval) (exponent : Int) : Option Nat :=
  let step := if 0 ≤ exponent then Nat.pow 10 exponent.toNat * i.den else i.den
  let lift := if 0 ≤ exponent then 1 else Nat.pow 10 (-exponent).toNat
  let inside (n : Nat) : Bool :=
    if i.closed then i.low * lift ≤ n * step && n * step ≤ i.high * lift
    else i.low * lift < n * step && n * step < i.high * lift
  let floor := i.value * lift / step
  let rest := i.value * lift % step
  let nearFloor := 2 * rest < step || (2 * rest = step && floor % 2 = 0)
  match inside floor && floor ≠ 0, inside (floor + 1) with
  | true, true => some (if nearFloor then floor else floor + 1)
  | true, false => some floor
  | false, true => some (floor + 1)
  | false, false => none

def reaches (i : Interval) (exponent : Int) : Bool :=
  if 0 ≤ exponent then Nat.pow 10 exponent.toNat * i.den ≤ i.value
  else i.den ≤ i.value * Nat.pow 10 (-exponent).toNat

def leading (i : Interval) : Nat → Int → Int
  | 0, guess => guess
  | tries + 1, guess => if reaches i (guess + 1) then leading i tries (guess + 1) else guess

/-- The first grid from `exponent` downwards that meets the interval. -/
def firstOnGrid (i : Interval) : Nat → Int → Decimal
  | 0, exponent => ⟨0,exponent⟩
  | tries + 1, exponent =>
    match onGrid i exponent with
    | some digits => ⟨digits,exponent⟩
    | none => firstOnGrid i tries (exponent - 1)

def shortest (x : Binary64) : Decimal :=
  if x.isZero then ⟨0,0⟩
  else
    let i := interval x
    let guess := ((Nat.log2 i.value : Int) - Nat.log2 i.den) * 30103 / 100000 - 2
    firstOnGrid i 18 (leading i 5 guess)

/-- How a number is laid out: which exponents of the leading digit are written positionally, and whether an
exponent that is not negative carries a plus sign. -/
structure Layout where
  least : Int
  most : Int
  plus : Bool

def positional (digits : List Char) (leadingExponent : Int) : List Char :=
  if leadingExponent < 0 then
    ['0','.'] ++ List.replicate (-leadingExponent - 1).toNat '0' ++ digits
  else
    let whole := leadingExponent.toNat + 1
    if digits.length ≤ whole then digits ++ List.replicate (whole - digits.length) '0' ++ ['.','0']
    else digits.take whole ++ '.' :: digits.drop whole

def scientific (plus : Bool) (digits : List Char) (leadingExponent : Int) : List Char :=
  digits.take 1 ++ (if digits.length ≤ 1 then [] else '.' :: digits.drop 1) ++ 'e' ::
    (if leadingExponent < 0 then ['-'] else if plus then ['+'] else []) ++
    Nat.toDigits 10 leadingExponent.natAbs

def write (layout : Layout) (d : Decimal) : List Char :=
  let digits := Nat.toDigits 10 d.digits
  let leadingExponent := d.exponent + (digits.length : Int) - 1
  let short := trimZeros digits
  if d.digits = 0 then ['0','.','0']
  else if layout.least ≤ leadingExponent ∧ leadingExponent ≤ layout.most then positional short leadingExponent
  else scientific layout.plus short leadingExponent
where
  trimZeros (digits : List Char) : List Char := (digits.reverse.dropWhile (· == '0')).reverse

end Decimal

def Binary64.write (layout : Decimal.Layout) (x : Binary64) : List Char :=
  (if x.isNegative then ['-'] else []) ++ Decimal.write layout (Decimal.shortest x)

def Binary64.describe (x : Binary64) : String :=
  if x.isNaN then "NaN"
  else if x.isInfinite then (if x.isNegative then "-inf" else "inf")
  else String.ofList (x.write ⟨-4,15,false⟩)

end Hostkeeper
