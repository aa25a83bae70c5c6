/-! UTF-8. A byte stream is read one byte at a time against the range that the next byte must lie in; a byte
outside it closes the sequence before it and is read again as a first byte. So each maximal broken sequence
counts as one fault, and a byte below `0x80` always stands for itself. -/
namespace Hostkeeper.Text.Utf8

/-- A sequence under way: how many bytes it still needs, the range of the next one, the bits so far. -/
structure Pending where
  needed : Nat
  low : UInt8
  high : UInt8
  value : Nat
  deriving Repr, DecidableEq

inductive Lead where
  | char (c : Char)
  | fault
  | more (pending : Pending)

def lead (b : UInt8) : Lead :=
  if b < 0x80 then .char (Char.ofNat b.toNat)
  else if b < 0xC2 then .fault
  else if b < 0xE0 then .more ⟨1,0x80,0xBF,b.toNat - 0xC0⟩
  else if b < 0xF0 then
    .more ⟨2,if b = 0xE0 then 0xA0 else 0x80,if b = 0xED then 0x9F else 0xBF,b.toNat - 0xE0⟩
  else if b < 0xF5 then
    .more ⟨3,if b = 0xF0 then 0x90 else 0x80,if b = 0xF4 then 0x8F else 0xBF,b.toNat - 0xF0⟩
  else .fault

def step : Option Pending → UInt8 → List (Option Char) × Option Pending
  | none, b => fresh b
  | some p, b =>
    if p.low ≤ b ∧ b ≤ p.high then
      let value := p.value * 64 + (b.toNat - 0x80)
      if p.needed ≤ 1 then ([some (Char.ofNat value)],none)
      else ([],some ⟨p.needed - 1,0x80,0xBF,value⟩)
    else (none :: (fresh b).1,(fresh b).2)
where
  fresh (b : UInt8) : List (Option Char) × Option Pending :=
    match lead b with
    | .char c => ([some c],none)
    | .fault => ([none],none)
    | .more p => ([],some p)

/-- The characters of a stream, `none` standing for a fault; a sequence cut off by the end is one. -/
def scan : Option Pending → List UInt8 → List (Option Char)
  | none, [] => []
  | some _, [] => [none]
  | p, b :: rest => (step p b).1 ++ scan (step p b).2 rest

/-- The characters before the first fault, and the bytes from there on; `since` are the bytes from the first
one of the sequence under way. -/
def frontFrom : Option Pending → List UInt8 → List UInt8 → List Char × List UInt8
  | none, _, [] => ([],[])
  | some _, since, [] => ([],since)
  | p, since, b :: rest =>
    match step p b with
    | ([some c],none) =>
      let later := frontFrom none rest rest
      (c :: later.1,later.2)
    | ([],some p) => frontFrom (some p) since rest
    | _ => ([],since)

def front (bytes : List UInt8) : List Char × List UInt8 := frontFrom none bytes bytes

def decode? (bytes : List UInt8) : Option String :=
  ((scan none bytes).mapM id).map String.ofList

def decodeLossy (bytes : List UInt8) : String :=
  String.ofList ((scan none bytes).map (·.getD '\uFFFD'))

def encode (s : String) : List UInt8 := s.toList.flatMap String.utf8EncodeChar

end Hostkeeper.Text.Utf8
