import Hostkeeper.Shell.Octets

/-! Shell patterns: a star for any characters, a question mark for one, and brackets for one of a set. A quoted
character stands for itself. -/
namespace Hostkeeper.Shell

inductive Member where
  | range (low high : Char)
  | named (name : String)

inductive Glob where
  | star
  | any
  | exact (c : Char)
  | set (negated : Bool) (members : List Member)

namespace Glob

def inClass (name : String) (c : Char) : Bool :=
  match name with
  | "alnum" => c.isAlphanum
  | "alpha" => c.isAlpha
  | "blank" => c = ' ' || c = '\t'
  | "cntrl" => c < ' ' || c = '\x7f'
  | "digit" => c.isDigit
  | "graph" => '!' ≤ c && c ≤ '~'
  | "lower" => c.isLower
  | "print" => ' ' ≤ c && c ≤ '~'
  | "punct" => '!' ≤ c && c ≤ '~' && !c.isAlphanum
  | "space" => isSpace c
  | "upper" => c.isUpper
  | "xdigit" => (hexDigit? c).isSome
  | _ => false

def classNames : List String :=
  ["alnum","alpha","blank","cntrl","digit","graph","lower","print","punct","space","upper","xdigit"]

def readNamed (cs : List (Char × Bool)) : Option (String × List (Char × Bool)) :=
  match cs with
  | (':',false) :: rest =>
    let name := String.ofList ((rest.map Prod.fst).takeWhile Char.isAlpha)
    match rest.drop name.length with
    | (':',false) :: (']',false) :: after => if classNames.contains name then some (name,after) else none
    | _ => none
  | _ => none

/-- Reads the members of a set up to its bracket, which cannot come first; none if it is missing. `fuel` bounds
the members. -/
def readMembers : Nat → Bool → List (Char × Bool) → Option (List Member × List (Char × Bool))
  | 0, _, _ => none
  | _, _, [] => none
  | fuel + 1, first, (c,quoted) :: rest =>
    if c = ']' && !quoted && !first then some ([],rest)
    else
      match if c = '[' && !quoted then readNamed rest else none with
      | some (name,after) => (readMembers fuel false after).map fun r => (.named name :: r.1,r.2)
      | none =>
        match rest with
        | ('-',false) :: (high,highQuoted) :: after =>
          if high = ']' && !highQuoted then (readMembers fuel false rest).map fun r => (.range c c :: r.1,r.2)
          else (readMembers fuel false after).map fun r => (.range c high :: r.1,r.2)
        | rest => (readMembers fuel false rest).map fun r => (.range c c :: r.1,r.2)

def read : Nat → List (Char × Bool) → List Glob
  | 0, _ | _, [] => []
  | fuel + 1, (c,quoted) :: rest =>
    if quoted then .exact c :: read fuel rest
    else if c = '*' then .star :: read fuel rest
    else if c = '?' then .any :: read fuel rest
    else if c = '[' then
      let negated := rest.head? = some ('!',false)
      match readMembers (rest.length + 1) true (if negated then rest.drop 1 else rest) with
      | some (members,after) => .set negated members :: read fuel after
      | none => .exact c :: read fuel rest
    else if c = '\\' then
      match rest with
      | (d,_) :: rest => .exact d :: read fuel rest
      | [] => [.exact c]
    else .exact c :: read fuel rest

def ofChars (cs : List (Char × Bool)) : List Glob := read (cs.length + 1) cs

def Member.holds (c : Char) : Member → Bool
  | .range low high => low ≤ c && c ≤ high
  | .named name => inClass name c

def takes (c : Char) : Glob → Bool
  | .star => false
  | .any => true
  | .exact d => c = d
  | .set negated members => (members.any (Member.holds c)) != negated

def accepts : List Glob → List Char → Bool
  | [], s => s.isEmpty
  | .star :: more, s => acceptsTail more s
  | item :: more, s =>
    match s with
    | [] => false
    | c :: rest => takes c item && accepts more rest
where
  acceptsTail (more : List Glob) : List Char → Bool
    | [] => accepts more []
    | c :: rest => accepts more (c :: rest) || acceptsTail more rest

/-- Whether a pattern could take more than one text. -/
def isOpen (pattern : List Glob) : Bool :=
  pattern.any fun
    | .exact _ => false
    | _ => true

end Glob

end Hostkeeper.Shell
