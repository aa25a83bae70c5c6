import Hostkeeper.Decimal.Binary64
import Hostkeeper.Shell.Numeral

/-! Numbers with fractions as scripts write them, kept as exact quotients, and their forms with a fixed number of
digits: positional, with an exponent, or the shorter one of the two. -/
namespace Hostkeeper.Shell

inductive Real where
  | infinite (negative : Bool)
  | undefined (negative : Bool)
  | exact (negative : Bool) (num den : Nat)

inductive Real.Precision where
  | double
  /-- With 64 binary digits, however large it is. -/
  | extended
  deriving DecidableEq

namespace Real

/-- A number at the front of a text, whether there is one, whether it is out of range, and what comes after. -/
structure Reading where
  value : Real
  found : Bool
  outOfRange : Bool := false
  rest : List Char

def extend (negative : Bool) (num den : Nat) : Real × Bool :=
  if num = 0 then (.exact negative 0 1,false)
  else
    let least : Int := (Nat.log2 num : Int) - Nat.log2 den - 64
    let first := Binary64.inUnits num den least
    let wanted := if first.1 / first.2 < Nat.pow 2 64 then least else least + 1
    let unit := max wanted (-16445)
    let scaled := Binary64.inUnits num den unit
    let digits := Binary64.roundQuotient scaled.1 scaled.2
    if unit > 16320 || (unit = 16320 && digits = Nat.pow 2 64) then (.infinite negative,true)
    else
      let x : Real := if 0 ≤ unit then .exact negative (digits * Nat.pow 2 unit.toNat) 1
        else .exact negative digits (Nat.pow 2 (-unit).toNat)
      (x,wanted < unit && scaled.1 % scaled.2 ≠ 0)

def keep (p : Precision) (negative : Bool) (num den : Nat) : Real × Bool :=
  match p with
  | .extended => extend negative num den
  | .double =>
    let x := Binary64.ofRatio negative num den
    if x.isFinite then
      let (n,d) := x.ratio
      (.exact negative n d,num * Nat.pow 2 1022 < den && n * den ≠ num * d)
    else (.infinite negative,true)

def powerLimit : Nat := 4940

def scaled (p : Precision) (negative : Bool) (digits base : Nat) (exponent : Int) : Real × Bool :=
  if digits = 0 then (.exact negative 0 1,false)
  else if exponent > powerLimit then (.infinite negative,true)
  else if exponent < -((2 * powerLimit : Nat) : Int) then (.exact negative 0 1,true)
  else if 0 ≤ exponent then keep p negative (digits * Nat.pow base exponent.toNat) 1
  else keep p negative digits (Nat.pow base (-exponent).toNat)

def readExponent (mark : Char) (cs : List Char) : Int × List Char :=
  match cs with
  | c :: rest =>
    if c.toLower = mark then
      let negative := rest.head? = some '-'
      let digits := if negative || rest.head? = some '+' then rest.drop 1 else rest
      if digits.head?.any Char.isDigit then
        let size : Int := digitsValue 10 (digits.takeWhile Char.isDigit)
        (if negative then -size else size,digits.dropWhile Char.isDigit)
      else (0,cs)
    else (0,cs)
  | [] => (0,[])

def readDigits (base : Nat) (isDigit : Char → Bool) (cs : List Char) : Option (Nat × Nat × List Char) :=
  let whole := cs.takeWhile isDigit
  let rest := cs.dropWhile isDigit
  let places := match rest with
    | '.' :: after => after.takeWhile isDigit
    | _ => []
  if whole.isEmpty && places.isEmpty then none
  else
    let rest := match rest with
      | '.' :: after => after.dropWhile isDigit
      | rest => rest
    some (digitsValue base (whole ++ places),places.length,rest)

def readUnsigned (p : Precision) (negative : Bool) (cs : List Char) : Option Reading :=
  let word := cs.map Char.toLower
  if "infinity".toList.isPrefixOf word then some ⟨.infinite negative,true,false,cs.drop 8⟩
  else if "inf".toList.isPrefixOf word then some ⟨.infinite negative,true,false,cs.drop 3⟩
  else if "nan".toList.isPrefixOf word then some ⟨.undefined negative,true,false,cs.drop 3⟩
  else
    let hex := match cs with
      | '0' :: x :: rest =>
        if x = 'x' || x = 'X' then readDigits 16 (fun c => (hexDigit? c).isSome) rest else none
      | _ => none
    match hex with
    | some (digits,places,rest) =>
      let (exponent,rest) := readExponent 'p' rest
      let (value,outOfRange) := scaled p negative digits 2 (exponent - 4 * places)
      some ⟨value,true,outOfRange,rest⟩
    | none =>
      (readDigits 10 Char.isDigit cs).map fun (digits,places,rest) =>
        let (exponent,rest) := readExponent 'e' rest
        let (value,outOfRange) := scaled p negative digits 10 (exponent - places)
        ⟨value,true,outOfRange,rest⟩

def read (p : Precision) (cs : List Char) : Reading :=
  let start := cs.dropWhile isSpace
  let negative := start.head? = some '-'
  (readUnsigned p negative (if negative || start.head? = some '+' then start.drop 1 else start)).getD
    ⟨.exact false 0 1,false,false,cs⟩

def padded (count n : Nat) : List Char :=
  let digits := Nat.toDigits 10 n
  List.replicate (count - digits.length) '0' ++ digits

def withPlaces (whole : List Char) (point : Bool) (places : List Char) : List Char :=
  if places.isEmpty && !point then whole else whole ++ '.' :: places

def positional (places : Nat) (point : Bool) (num den : Nat) : List Char :=
  let n := Binary64.roundQuotient (num * Nat.pow 10 places) den
  let digits := padded (places + 1) n
  withPlaces (digits.take (digits.length - places)) point (digits.drop (digits.length - places))

/-- The power of ten of the first digit, and so many more digits. -/
def significant (more num den : Nat) : Int × List Char :=
  if num = 0 then (0,List.replicate (more + 1) '0')
  else
    let guess : Int := (Nat.toDigits 10 num).length - (Nat.toDigits 10 den).length
    let digits (power : Int) : Nat :=
      let shift := (more : Int) - power
      if 0 ≤ shift then Binary64.roundQuotient (num * Nat.pow 10 shift.toNat) den
      else Binary64.roundQuotient num (den * Nat.pow 10 (-shift).toNat)
    -- The first digit stands at the guess, or one place below it.
    let below := if den * Nat.pow 10 guess.toNat ≤ num * Nat.pow 10 (-guess).toNat then guess else guess - 1
    let n := digits below
    if n ≥ Nat.pow 10 (more + 1) then (below + 1,padded (more + 1) (digits (below + 1)))
    else (below,padded (more + 1) n)

def exponential (point : Bool) (power : Int) (digits : List Char) : List Char :=
  withPlaces (digits.take 1) point (digits.drop 1) ++ 'e' :: (if power < 0 then '-' else '+') :: padded 2 power.natAbs

/-- The shorter one of the two forms, with so many digits; zeros at the end go unless wanted. -/
def shorter (digits : Nat) (zeros : Bool) (num den : Nat) : List Char :=
  let wanted := max digits 1
  let (power,ds) := significant (wanted - 1) num den
  let strip (cs : List Char) : List Char := if zeros then cs else (cs.reverse.dropWhile (· = '0')).reverse
  if power < -4 || power ≥ wanted then exponential zeros power (ds.take 1 ++ strip (ds.drop 1))
  else if power < 0 then
    withPlaces ['0'] zeros (strip (List.replicate (power.natAbs - 1) '0' ++ ds))
  else
    let count := power.natAbs + 1
    withPlaces (ds.take count) zeros (strip (ds.drop count))

def Precision.hexDigits : Precision → Nat × Nat
  | .double => (1,13)
  | .extended => (4,15)

/-- The hexadecimal form of a quotient, without its `0x`; all the digits it has unless places are asked for. -/
def hexadecimal (p : Precision) (places : Option Nat) (point : Bool) (num den : Nat) : List Char :=
  let (before,behind) := p.hexDigits
  let guess : Int := (Nat.log2 num : Int) - Nat.log2 den
  let first := Binary64.inUnits num den guess
  let top := if num = 0 then (before : Int) - 1 else if first.1 < first.2 then guess - 1 else guess
  let top := if p = .double then max top (-1022) else top
  let exponent := top + 1 - before
  let digits (count : Nat) : Nat :=
    let scaled := Binary64.inUnits num den (exponent - 4 * count)
    Binary64.roundQuotient scaled.1 scaled.2
  let count := places.getD behind
  let n := digits (min count behind) * Nat.pow 16 (count - behind)
  let lead := n / Nat.pow 16 count
  let (lead,exponent) := if lead = 16 then (1,exponent + 4) else (lead,exponent)
  let tail := Nat.toDigits 16 (n % Nat.pow 16 count)
  let tail := if count = 0 then [] else List.replicate (count - tail.length) '0' ++ tail
  let tail := if places.isNone then (tail.reverse.dropWhile (· = '0')).reverse else tail
  withPlaces (Nat.toDigits 16 lead) point tail ++
    'p' :: (if exponent < 0 then '-' else '+') :: Nat.toDigits 10 exponent.natAbs

def form (p : Precision) (letter : Char) (places : Option Nat) (alternate : Bool) (num den : Nat) : List Char :=
  match letter.toLower with
  | 'a' => hexadecimal p places alternate num den
  | 'f' => positional (places.getD 6) alternate num den
  | 'e' =>
    let (power,ds) := significant (places.getD 6) num den
    exponential alternate power ds
  | _ => shorter (places.getD 6) alternate num den

def text (p : Precision) (letter : Char) (places : Option Nat) (alternate : Bool) (x : Real) : Bool × List Char :=
  let (negative,cs) := match x with
    | .infinite negative => (negative,"inf".toList)
    | .undefined negative => (negative,"nan".toList)
    | .exact negative num den => (negative,form p letter places alternate num den)
  (negative,if letter.isUpper then cs.map Char.toUpper else cs)

def isFinite : Real → Bool
  | .exact .. => true
  | _ => false

end Real

end Hostkeeper.Shell
