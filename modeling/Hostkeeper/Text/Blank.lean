/-! Blanks and line ends. A text is trimmed of every character with the `White_Space` property; a line ends at
a line feed, which takes one carriage return before it along. -/
namespace Hostkeeper.Text

def isBlank (c : Char) : Bool :=
  let n := c.toNat
  (9 ≤ n && n ≤ 13) || n == 0x20 || n == 0x85 || n == 0xA0 || n == 0x1680 || (0x2000 ≤ n && n ≤ 0x200A) ||
    n == 0x2028 || n == 0x2029 || n == 0x202F || n == 0x205F || n == 0x3000

def dropEndWhile (drop : Char → Bool) (cs : List Char) : List Char :=
  (cs.reverse.dropWhile drop).reverse

def strip (cs : List Char) : List Char := dropEndWhile isBlank (cs.dropWhile isBlank)

def trim (s : String) : String := String.ofList (strip s.toList)

def trimmed? (s : String) : Option String := if (trim s).isEmpty then none else some (trim s)

/-- Pieces between the characters that satisfy `cut`, empty ones included: always at least one. -/
def splitWhen (cut : Char → Bool) : List Char → List (List Char)
  | [] => [[]]
  | c :: rest =>
    if cut c then [] :: splitWhen cut rest
    else match splitWhen cut rest with
      | [] => [[c]]
      | piece :: pieces => (c :: piece) :: pieces

def splitOn (separator : Char) (s : String) : List String :=
  (splitWhen (· == separator) s.toList).map String.ofList

/-- Pieces between line feeds as lines: a carriage return goes with its line feed, and what follows the last
line feed is no line unless it holds something. -/
def endLines : List (List Char) → List (List Char)
  | [] => []
  | [piece] => if piece.isEmpty then [] else [piece]
  | piece :: rest => (if piece.getLast? = some '\r' then piece.dropLast else piece) :: endLines rest

def lines (s : String) : List String :=
  (endLines (splitWhen (· == '\n') s.toList)).map String.ofList

def filledLines (s : String) : List String := (lines s).filterMap trimmed?

def words (s : String) : List String :=
  ((splitWhen isBlank s.toList).filter (!·.isEmpty)).map String.ofList

def lower (s : String) : String := String.ofList (s.toList.map Char.toLower)

def replaceChar (old new : Char) (s : String) : String :=
  String.ofList (s.toList.map fun c => if c = old then new else c)

def startsWith (s opening : String) : Bool := opening.toList.isPrefixOf s.toList

def joinWith (separator : String) (parts : List String) : String := separator.intercalate parts

end Hostkeeper.Text
