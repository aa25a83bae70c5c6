import Hostkeeper.Json.Basic
import Hostkeeper.Text.Quoted

/-! JSON text. A value is written in front of what follows it, so that each writer is a function of the rest of
the text. The compact form has no blanks; the indented one puts every item on a line of its own. -/
namespace Hostkeeper.Json

def escape (c : Char) : List Char :=
  match c with
  | '"' => ['\\','"']
  | '\\' => ['\\','\\']
  | '\x08' => ['\\','b']
  | '\x0c' => ['\\','f']
  | '\n' => ['\\','n']
  | '\r' => ['\\','r']
  | '\t' => ['\\','t']
  | c => if c.toNat < 32 then ['\\','u'] ++ Text.paddedHex 4 c.toNat else [c]

def writeText (s : String) (rest : List Char) : List Char :=
  '"' :: (s.toList.flatMap escape ++ '"' :: rest)

/-- Positional from `0.00001` to below ten thousand million million, always with a fraction. -/
def numberLayout : Decimal.Layout := ⟨-5,15,true⟩

def writeInt (n : Int) (rest : List Char) : List Char :=
  (if n < 0 then ['-'] else []) ++ Nat.toDigits 10 n.natAbs ++ rest

def writeReal (x : Binary64) (rest : List Char) : List Char := x.write numberLayout ++ rest

mutual

def write : Json → List Char → List Char
  | .null, rest => 'n' :: 'u' :: 'l' :: 'l' :: rest
  | .bool true, rest => 't' :: 'r' :: 'u' :: 'e' :: rest
  | .bool false, rest => 'f' :: 'a' :: 'l' :: 's' :: 'e' :: rest
  | .int n, rest => writeInt n rest
  | .real x, rest => writeReal x rest
  | .text s, rest => writeText s rest
  | .list [], rest => '[' :: ']' :: rest
  | .list (item :: items), rest => '[' :: write item (writeItems items rest)
  | .object [], rest => '\x7b' :: '\x7d' :: rest
  | .object ((key,value) :: fields), rest =>
    '\x7b' :: writeText key (':' :: write value (writeFields fields rest))

def writeItems : List Json → List Char → List Char
  | [], rest => ']' :: rest
  | item :: items, rest => ',' :: write item (writeItems items rest)

def writeFields : List (String × Json) → List Char → List Char
  | [], rest => '\x7d' :: rest
  | (key,value) :: fields, rest => ',' :: writeText key (':' :: write value (writeFields fields rest))

end

def compact (value : Json) : String := String.ofList (value.write [])

private def newline (depth : Nat) (rest : List Char) : List Char :=
  '\n' :: (List.replicate (2 * depth) ' ' ++ rest)

mutual

/-- A value with its items on lines of their own, two blanks deeper than itself. -/
def writeIndented (depth : Nat) : Json → List Char → List Char
  | .list [], rest => '[' :: ']' :: rest
  | .list (item :: items), rest =>
    '[' :: newline (depth + 1) (writeIndented (depth + 1) item (writeIndentedItems depth items rest))
  | .object [], rest => '\x7b' :: '\x7d' :: rest
  | .object ((key,value) :: fields), rest =>
    '\x7b' :: newline (depth + 1) (writeText key (':' :: ' ' ::
      writeIndented (depth + 1) value (writeIndentedFields depth fields rest)))
  | .null, rest => write .null rest
  | .bool b, rest => write (.bool b) rest
  | .int n, rest => write (.int n) rest
  | .real x, rest => write (.real x) rest
  | .text s, rest => write (.text s) rest

def writeIndentedItems (depth : Nat) : List Json → List Char → List Char
  | [], rest => newline depth (']' :: rest)
  | item :: items, rest =>
    ',' :: newline (depth + 1) (writeIndented (depth + 1) item (writeIndentedItems depth items rest))

def writeIndentedFields (depth : Nat) : List (String × Json) → List Char → List Char
  | [], rest => newline depth ('\x7d' :: rest)
  | (key,value) :: fields, rest =>
    ',' :: newline (depth + 1) (writeText key (':' :: ' ' ::
      writeIndented (depth + 1) value (writeIndentedFields depth fields rest)))

end

def indented (value : Json) : String := String.ofList (value.writeIndented 0 [])

end Hostkeeper.Json
