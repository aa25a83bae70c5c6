import Hostkeeper.Shell.Octets

/-! Arguments as messages show them: always between quotes, or only where a shell would take them for something else. -/
namespace Hostkeeper.Shell.Quoting

def letter? (c : Char) : Option Char :=
  match c with
  | '\x07' => some 'a'
  | '\x08' => some 'b'
  | '\x0c' => some 'f'
  | '\n' => some 'n'
  | '\r' => some 'r'
  | '\t' => some 't'
  | '\x0b' => some 'v'
  | _ => none

def escape? (c : Char) : Option (List Char) :=
  match letter? c with
  | some l => some ['\\',l]
  | none =>
    if c < ' ' || c ≥ '\x7f' then
      let digits := Nat.toDigits 8 c.toNat
      some ('\\' :: List.replicate (3 - digits.length) '0' ++ digits)
    else none

def shown (s : String) : String :=
  let body := s.toList.flatMap fun c => (escape? c).getD (if c = '\\' || c = '\'' then ['\\',c] else [c])
  String.ofList ('\'' :: body ++ ['\''])

def isSpecial (s : List Char) (i : Nat) (c : Char) : Bool :=
  " !\"$&()*;<=>[^\x60|\\'".contains c || (escape? c).isSome || (i = 0 && (c = '#' || c = '~')) ||
    (s.length = 1 && (c = '\x7b' || c = '\x7d'))

def isPlain (c : Char) : Bool := c.isAlphanum || " '%+,-./:]_".contains c

def single : Bool → List Char → List Char
  | _, [] => []
  | escaped, c :: rest =>
    match escape? c with
    | some e => (if escaped then [] else ['\'','$','\'']) ++ e ++ single true rest
    | none =>
      (if escaped then ['\'','\''] else []) ++ (if c = '\'' then ['\'','\\','\''] else [c]) ++ single false rest

/-- An argument as a shell reads it; quotes are left out if nothing needs them, no colon either where it matters. -/
def forShell (colon : Bool) (s : String) : String :=
  let cs := s.toList
  if !cs.isEmpty && !(cs.zipIdx.any fun c => isSpecial cs c.2 c.1 || (colon && c.1 = ':')) then s
  else if cs.contains '\'' && cs.all isPlain then String.ofList ('"' :: cs ++ ['"'])
  else String.ofList ('\'' :: single false cs ++ ['\''])

def path (s : String) : String := forShell true s

end Hostkeeper.Shell.Quoting
