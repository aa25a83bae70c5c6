/-! Numbers of IEEE 754 binary64 as their bits. A finite one is `significand * 2 ^ scale`; a quotient is rounded
to the nearest, ties to the even significand, and past the largest finite one to infinity. -/
namespace Hostkeeper

structure Binary64 where
  bits : UInt64
  deriving DecidableEq, Repr

namespace Binary64

def isNegative (x : Binary64) : Bool := x.bits ≥ 0x8000000000000000

def magnitude (x : Binary64) : Nat := x.bits.toNat % Nat.pow 2 63

def exponentField (x : Binary64) : Nat := x.magnitude / Nat.pow 2 52

def isFinite (x : Binary64) : Bool := x.exponentField < 2047

def isNaN (x : Binary64) : Bool := x.magnitude > 2047 * Nat.pow 2 52

def isInfinite (x : Binary64) : Bool := x.magnitude = 2047 * Nat.pow 2 52

def isZero (x : Binary64) : Bool := x.magnitude = 0

def significand (x : Binary64) : Nat :=
  x.magnitude % Nat.pow 2 52 + if x.exponentField = 0 then 0 else Nat.pow 2 52

/-- The power of two of the significand's unit, counted from that of the least subnormal. -/
def scaleStep (x : Binary64) : Nat := x.exponentField - 1

def scale (x : Binary64) : Int := (x.scaleStep : Int) - 1074

def ofMagnitude (negative : Bool) (m : Nat) : Binary64 :=
  ⟨UInt64.ofNat (m + if negative then Nat.pow 2 63 else 0)⟩

def infinity (negative : Bool) : Binary64 := ofMagnitude negative (2047 * Nat.pow 2 52)

def nan : Binary64 := ofMagnitude false (2047 * Nat.pow 2 52 + Nat.pow 2 51)

def zero (negative : Bool) : Binary64 := ofMagnitude negative 0

/-- `num / den` to the nearest integer, a half to the even one. -/
def roundQuotient (num den : Nat) : Nat :=
  let q := num / den
  let r := num % den
  if 2 * r < den || (2 * r = den && q % 2 = 0) then q else q + 1

/-- `num / den` in units of `2 ^ unit`, as a quotient. -/
def inUnits (num den : Nat) (unit : Int) : Nat × Nat :=
  if 0 ≤ unit then (num,den * Nat.pow 2 unit.toNat) else (num * Nat.pow 2 (-unit).toNat,den)

def ofRatio (negative : Bool) (num den : Nat) : Binary64 :=
  if num = 0 then zero negative
  else
    let least : Int := max ((Nat.log2 num : Int) - Nat.log2 den - 53) (-1074)
    let first := inUnits num den least
    let unit := if first.1 / first.2 < Nat.pow 2 53 then least else least + 1
    let scaled := inUnits num den unit
    let magnitude := (unit + 1074).toNat * Nat.pow 2 52 + roundQuotient scaled.1 scaled.2
    ofMagnitude negative (min magnitude (2047 * Nat.pow 2 52))

def ofNat (n : Nat) : Binary64 := ofRatio false n 1

def ofInt (n : Int) : Binary64 := ofRatio (n < 0) n.natAbs 1

def ratio (x : Binary64) : Nat × Nat :=
  if 0 ≤ x.scale then (x.significand * Nat.pow 2 x.scale.toNat,1) else (x.significand,Nat.pow 2 (-x.scale).toNat)

def mul (x y : Binary64) : Binary64 :=
  ofRatio (x.isNegative != y.isNegative) (x.ratio.1 * y.ratio.1) (x.ratio.2 * y.ratio.2)

def div (x y : Binary64) : Binary64 :=
  ofRatio (x.isNegative != y.isNegative) (x.ratio.1 * y.ratio.2) (x.ratio.2 * y.ratio.1)

def neg (x : Binary64) : Binary64 := ofMagnitude (!x.isNegative) x.magnitude

end Binary64

end Hostkeeper
