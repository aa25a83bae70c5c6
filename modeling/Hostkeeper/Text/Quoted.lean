import Hostkeeper.Text.Escaped

/-! Texts in messages: quoted, with escapes for what cannot be shown as itself. -/
namespace Hostkeeper.Text

def hexDigits (n : Nat) : List Char := Nat.toDigits 16 n

def paddedHex (least n : Nat) : List Char :=
  List.replicate (least - (hexDigits n).length) '0' ++ hexDigits n

def escape (c : Char) : List Char :=
  match c with
  | '"' => ['\\','"']
  | '\\' => ['\\','\\']
  | '\n' => ['\\','n']
  | '\r' => ['\\','r']
  | '\t' => ['\\','t']
  | '\x00' => ['\\','0']
  | c => if isGlyphless c then ['\\','u','\x7b'] ++ hexDigits c.toNat ++ ['\x7d'] else [c]

def quoted (s : String) : String := String.ofList ('"' :: s.toList.flatMap escape ++ ['"'])

end Hostkeeper.Text
