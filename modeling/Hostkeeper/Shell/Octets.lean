import Hostkeeper.Text.Utf8

/-! Text as octets: each character stands for the byte with its number. Scripts and tools handle bytes, whatever
text they encode. -/
namespace Hostkeeper.Shell

/-- The octets of some bytes. -/
def octets (bytes : List UInt8) : String := String.ofList (bytes.map fun b => Char.ofNat b.toNat)

def bytesOf (s : String) : List UInt8 := s.toList.map fun c => UInt8.ofNat c.toNat

def ofText (s : String) : String := octets (Text.Utf8.encode s)

def toText (s : String) : String := Text.Utf8.decodeLossy (bytesOf s)

def isNameStart (c : Char) : Bool := c.isAlpha || c = '_'

def isNameChar (c : Char) : Bool := c.isAlphanum || c = '_'

def isName (s : String) : Bool :=
  match s.toList with
  | [] => false
  | c :: rest => isNameStart c && rest.all isNameChar

def isOctal (c : Char) : Bool := '0' ≤ c && c ≤ '7'

def hexDigit? (c : Char) : Option Nat :=
  if c.isDigit then some (c.toNat - 48)
  else if 'a' ≤ c && c ≤ 'f' then some (c.toNat - 87)
  else if 'A' ≤ c && c ≤ 'F' then some (c.toNat - 55)
  else none

def isSpace (c : Char) : Bool := c = ' ' || ('\t' ≤ c && c ≤ '\r')

end Hostkeeper.Shell
