import Hostkeeper.Json.Basic
import Hostkeeper.Text.Utf8

/-! Reading JSON from bytes. A fault is reported with its line and column; nesting is limited; a number with
neither fraction nor exponent that fits 64 bits is an integer, every other one a binary64 number. -/
namespace Hostkeeper.Json

inductive Fault where
  | endInList
  | endInObject
  | endInText
  | endInValue
  | expectedColon
  | expectedListEnd
  | expectedObjectEnd
  | expectedWord
  | expectedValue
  | invalidEscape
  | invalidNumber
  | numberOutOfRange
  | invalidCodePoint
  | controlCharacter
  | keyNotText
  | loneSurrogate
  | trailingComma
  | trailingCharacters
  | unexpectedEscapeEnd
  | tooDeep
  deriving Repr, DecidableEq

def Fault.message : Fault → String
  | .endInList => "EOF while parsing a list"
  | .endInObject => "EOF while parsing an object"
  | .endInText => "EOF while parsing a string"
  | .endInValue => "EOF while parsing a value"
  | .expectedColon => "expected `:`"
  | .expectedListEnd => "expected `,` or `]`"
  | .expectedObjectEnd => "expected `,` or `\x7d`"
  | .expectedWord => "expected ident"
  | .expectedValue => "expected value"
  | .invalidEscape => "invalid escape"
  | .invalidNumber => "invalid number"
  | .numberOutOfRange => "number out of range"
  | .invalidCodePoint => "invalid unicode code point"
  | .controlCharacter => "control character (\\u0000-\\u001F) found while parsing a string"
  | .keyNotText => "key must be a string"
  | .loneSurrogate => "lone leading surrogate in hex escape"
  | .trailingComma => "trailing comma"
  | .trailingCharacters => "trailing characters"
  | .unexpectedEscapeEnd => "unexpected end of hex escape"
  | .tooDeep => "recursion limit exceeded"

structure FaultAt where
  fault : Fault
  left : Nat

/-- A fault with its line and column, both of the last byte looked at. -/
structure ReadError where
  fault : Fault
  line : Nat
  column : Nat
  deriving Repr, DecidableEq

def ReadError.message (e : ReadError) : String :=
  e.fault.message ++ " at line " ++ toString e.line ++ " column " ++ toString e.column

private def behind {α : Type} (fault : Fault) (left : List UInt8) : Except FaultAt α :=
  .error ⟨fault,left.length⟩

private def ahead {α : Type} (fault : Fault) (left : List UInt8) : Except FaultAt α :=
  .error ⟨fault,left.length - 1⟩

private def isGap (b : UInt8) : Bool := b = 32 || b = 10 || b = 9 || b = 13

private def skipGap (bytes : List UInt8) : List UInt8 := bytes.dropWhile isGap

private def isDigit (b : UInt8) : Bool := 48 ≤ b && b ≤ 57

private def digitValue (b : UInt8) : Nat := b.toNat - 48

/-- Takes digits onto a significand of at most 64 bits; gives it, the digits taken and the bytes after them. -/
private def takeDigits (significand taken : Nat) : List UInt8 → Nat × Nat × List UInt8
  | [] => (significand,taken,[])
  | b :: rest =>
    if isDigit b && significand * 10 + digitValue b < UInt64.size then
      takeDigits (significand * 10 + digitValue b) (taken + 1) rest
    else (significand,taken,b :: rest)

private def greatestPower : Nat := 308

/-- `significand * 10 ^ exponent`, scaled by rounded powers of ten, or nothing when it is out of range. -/
private def scaled : Nat → Binary64 → Int → Option Binary64
  | 0, x, _ => some x
  | steps + 1, x, exponent =>
    if exponent.natAbs ≤ greatestPower then
      let power := Binary64.ofNat (Nat.pow 10 exponent.natAbs)
      if 0 ≤ exponent then
        let y := x.mul power
        if y.isFinite then some y else none
      else some (x.div power)
    else if x.isZero then some x
    else if 0 ≤ exponent then none
    else scaled steps (x.div (Binary64.ofNat (Nat.pow 10 greatestPower))) (exponent + greatestPower)

private def finishReal (negative : Bool) (significand : Nat) (exponent : Int) (rest : List UInt8) :
    Except FaultAt (Json × List UInt8) :=
  match scaled 10 (Binary64.ofNat significand) exponent with
  | some x => .ok (.real (if negative then x.neg else x),rest)
  | none => behind .numberOutOfRange rest

/-- What is left after the first digit that takes an exponent past its 32 bits. -/
private def afterOverflow (size : Nat) : List UInt8 → List UInt8
  | [] => []
  | b :: rest =>
    let size := size * 10 + digitValue b
    if size < UInt32.size / 2 then afterOverflow size rest else rest

private def readExponent (negative : Bool) (significand : Nat) (exponent : Int) (bytes : List UInt8) :
    Except FaultAt (Json × List UInt8) :=
  let down := bytes.head? = some 45
  let unsigned := if bytes.head? = some 43 || down then bytes.drop 1 else bytes
  match unsigned with
  | [] => behind .endInValue []
  | b :: rest =>
    if !isDigit b then behind .invalidNumber rest
    else
      let digits := unsigned.takeWhile isDigit
      let after := unsigned.dropWhile isDigit
      let size := digits.foldl (fun n d => n * 10 + digitValue d) 0
      if size < UInt32.size / 2 then
        finishReal negative significand (exponent + if down then -(size : Int) else size) after
      else if significand ≠ 0 && !down then
        behind .numberOutOfRange (afterOverflow 0 unsigned)
      else .ok (.real (.zero negative),after)

private def readFraction (negative : Bool) (significand : Nat) (exponent : Int) (bytes : List UInt8) :
    Except FaultAt (Json × List UInt8) :=
  let (significand,taken,rest) := takeDigits significand 0 bytes
  let exponent := exponent - taken
  if taken = 0 && !(rest.head?.any isDigit) then
    if rest.isEmpty then ahead .endInValue rest else ahead .invalidNumber rest
  else
    match rest.dropWhile isDigit with
    | 101 :: rest | 69 :: rest => readExponent negative significand exponent rest
    | rest => finishReal negative significand exponent rest

private def readNumber (negative : Bool) (bytes : List UInt8) : Except FaultAt (Json × List UInt8) :=
  match bytes with
  | [] => behind .endInValue []
  | 48 :: rest =>
    if rest.head?.any isDigit then ahead .invalidNumber rest else continued 0 0 rest
  | b :: rest =>
    if !isDigit b then behind .invalidNumber rest
    else
      let (significand,_,rest) := takeDigits 0 0 (b :: rest)
      let beyond := rest.takeWhile isDigit
      continued significand beyond.length (rest.drop beyond.length)
where
  /-- The significand so far, how many digits beyond it were left out, and what follows. -/
  continued (significand beyond : Nat) : List UInt8 → Except FaultAt (Json × List UInt8)
    | 46 :: rest => readFraction negative significand beyond rest
    | 101 :: rest | 69 :: rest => readExponent negative significand beyond rest
    | rest =>
      if beyond ≠ 0 then finishReal negative significand beyond rest
      else if !negative then .ok (.int significand,rest)
      else if significand = 0 || significand > UInt64.size / 2 then
        .ok (.real (Binary64.ofRatio true significand 1),rest)
      else .ok (.int (-(significand : Int)),rest)

private def hexValue (b : UInt8) : Option Nat :=
  if isDigit b then some (digitValue b)
  else if 97 ≤ b && b ≤ 102 then some (b.toNat - 87)
  else if 65 ≤ b && b ≤ 70 then some (b.toNat - 55)
  else none

private def readHex : List UInt8 → Except FaultAt (Nat × List UInt8)
  | a :: b :: c :: d :: rest =>
    match hexValue a, hexValue b, hexValue c, hexValue d with
    | some a, some b, some c, some d => .ok (((a * 16 + b) * 16 + c) * 16 + d,rest)
    | _, _, _, _ => behind .invalidEscape rest
  | _ => behind .endInText []

private def readCodePoint (bytes : List UInt8) : Except FaultAt (Char × List UInt8) := do
  let (first,rest) ← readHex bytes
  if 0xDC00 ≤ first && first ≤ 0xDFFF then behind .loneSurrogate rest
  else if first < 0xD800 || 0xDBFF < first then .ok (Char.ofNat first,rest)
  else
    match rest with
    | [] => behind .endInText []
    | 92 :: [] => behind .endInText []
    | 92 :: 117 :: rest =>
      let (second,rest) ← readHex rest
      if second < 0xDC00 || 0xDFFF < second then behind .loneSurrogate rest
      else .ok (Char.ofNat (0x10000 + (first - 0xD800) * 0x400 + (second - 0xDC00)),rest)
    | 92 :: _ :: rest => behind .unexpectedEscapeEnd rest
    | _ :: rest => behind .unexpectedEscapeEnd rest

private def simpleEscape (b : UInt8) : Option Char :=
  match b with
  | 34 => some '"'
  | 92 => some '\\'
  | 47 => some '/'
  | 98 => some '\x08'
  | 102 => some '\x0c'
  | 110 => some '\n'
  | 114 => some '\r'
  | 116 => some '\t'
  | _ => none

private def isPlain (b : UInt8) : Bool := b ≠ 34 && b ≠ 92 && 32 ≤ b

/-- Reads a string after its opening quote; `held` is what was read so far, last character first. The bytes
up to an escape or the end must be whole characters; the first that is not is the fault. -/
private def readTextFrom : Nat → List Char → List UInt8 → Except FaultAt (String × List UInt8)
  | 0, _, bytes => behind .endInText bytes
  | steps + 1, held, bytes =>
    match bytes.dropWhile isPlain with
    | [] => behind .endInText []
    | b :: rest =>
      if b < 32 then behind .controlCharacter rest
      else
        match Text.Utf8.front (bytes.takeWhile isPlain) with
        | (_,broken :: more) => ahead .invalidCodePoint (broken :: more ++ b :: rest)
        | (plain,[]) =>
          let held := plain.reverse ++ held
          if b = 34 then .ok (String.ofList held.reverse,rest)
          else
            match rest with
            | [] => behind .endInText []
            | 117 :: rest => do
              let (c,rest) ← readCodePoint rest
              readTextFrom steps (c :: held) rest
            | e :: rest =>
              match simpleEscape e with
              | some c => readTextFrom steps (c :: held) rest
              | none => behind .invalidEscape rest

private def readText (bytes : List UInt8) : Except FaultAt (String × List UInt8) :=
  readTextFrom (bytes.length + 1) [] bytes

private def readWord (value : Json) : List UInt8 → List UInt8 → Except FaultAt (Json × List UInt8)
  | [], bytes => .ok (value,bytes)
  | _ :: _, [] => behind .endInValue []
  | w :: word, b :: rest => if w = b then readWord value word rest else behind .expectedWord rest

mutual

private def readValue : Nat → Nat → List UInt8 → Except FaultAt (Json × List UInt8)
  | 0, _, bytes => behind .endInValue bytes
  | steps + 1, depth, bytes =>
    match skipGap bytes with
    | [] => ahead .endInValue []
    | b :: rest =>
      if b = 110 then readWord .null [117,108,108] rest
      else if b = 116 then readWord (.bool true) [114,117,101] rest
      else if b = 102 then readWord (.bool false) [97,108,115,101] rest
      else if b = 45 then readNumber true rest
      else if isDigit b then readNumber false (b :: rest)
      else if b = 34 then do
        let (s,rest) ← readText rest
        .ok (.text s,rest)
      else if b = 91 || b = 123 then
        if depth ≤ 1 then ahead .tooDeep (b :: rest)
        else if b = 91 then readItems steps (depth - 1) true [] rest
        else readFields steps (depth - 1) true [] rest
      else ahead .expectedValue (b :: rest)

private def readItems : Nat → Nat → Bool → List Json → List UInt8 → Except FaultAt (Json × List UInt8)
  | 0, _, _, _, bytes => behind .endInList bytes
  | steps + 1, depth, first, held, bytes =>
    match skipGap bytes with
    | [] => ahead .endInList []
    | 93 :: rest => .ok (.list held.reverse,rest)
    | b :: rest =>
      if first then item steps depth held (b :: rest)
      else if b ≠ 44 then ahead .expectedListEnd (b :: rest)
      else
        match skipGap rest with
        | [] => ahead .endInValue []
        | 93 :: rest => ahead .trailingComma (93 :: rest)
        | rest => item steps depth held rest

private def item : Nat → Nat → List Json → List UInt8 → Except FaultAt (Json × List UInt8)
  | 0, _, _, bytes => behind .endInList bytes
  | steps + 1, depth, held, bytes => do
    let (value,rest) ← readValue steps depth bytes
    readItems steps depth false (value :: held) rest

private def readFields :
    Nat → Nat → Bool → List (String × Json) → List UInt8 → Except FaultAt (Json × List UInt8)
  | 0, _, _, _, bytes => behind .endInObject bytes
  | steps + 1, depth, first, held, bytes =>
    match skipGap bytes with
    | [] => ahead .endInObject []
    | 125 :: rest => .ok (.ofFields (.ofList held.reverse),rest)
    | b :: rest =>
      if first then field steps depth held (b :: rest)
      else if b ≠ 44 then ahead .expectedObjectEnd (b :: rest)
      else
        match skipGap rest with
        | [] => ahead .endInValue []
        | 125 :: rest => ahead .trailingComma (125 :: rest)
        | rest => field steps depth held rest

private def field : Nat → Nat → List (String × Json) → List UInt8 → Except FaultAt (Json × List UInt8)
  | 0, _, _, bytes => behind .endInObject bytes
  | steps + 1, depth, held, bytes =>
    match bytes with
    | 34 :: rest => do
      let (key,rest) ← readText rest
      match skipGap rest with
      | [] => ahead .endInObject []
      | 58 :: rest => do
        let (value,rest) ← readValue steps depth rest
        readFields steps depth false ((key,value) :: held) rest
      | rest => ahead .expectedColon rest
    | rest => ahead .keyNotText rest

end

/-- The greatest depth of nesting, the innermost value counted. -/
def depthLimit : Nat := 128

/-- Where a fault stands: the lines begun and the bytes of the last one before the first `count` bytes end. -/
private def locate (fault : Fault) (bytes : List UInt8) (count : Nat) : ReadError :=
  let before := bytes.take count
  ⟨fault,1 + before.count 10,(before.reverse.takeWhile (· ≠ 10)).length⟩

def read (bytes : List UInt8) : Except ReadError Json :=
  let value : Except FaultAt Json := do
    let (value,rest) ← readValue (4 * bytes.length + 4) depthLimit bytes
    match skipGap rest with
    | [] => .ok value
    | rest => ahead .trailingCharacters rest
  match value with
  | .ok value => .ok value
  | .error e => .error (locate e.fault bytes (bytes.length - e.left))

end Hostkeeper.Json
