import Hostkeeper.Text.Blank
import Hostkeeper.Text.Letters

/-! Patterns for the values of log fields: regular expressions, of which only the form matters here. Classes and
the folding of case that need tables of all characters are not known, and a pattern matches whole characters
only. A pattern stands inside braces, so a brace that is opened in it is never closed. -/
namespace Hostkeeper.LogFilter.Pattern

structure Flags where
  wide : Bool := true
  foldCase : Bool := false
  spaced : Bool := false

/-- Skips blanks, and remarks up to the end of their line; `remark` tells whether one is under way. -/
def skipRemarks : Bool → List Char → List Char
  | _, [] => []
  | remark, c :: rest =>
    if remark then skipRemarks (c ≠ '\n') rest
    else if Text.isBlank c then skipRemarks false rest
    else if c = '#' then skipRemarks true rest
    else c :: rest

def Flags.skip (f : Flags) (cs : List Char) : List Char := if f.spaced then skipRemarks false cs else cs

inductive Escape where
  | literal (code : Nat) (byte : Bool)
  | class (negated : Bool)
  | condition (aboutWords : Bool)

def hexDigit? (c : Char) : Option Nat :=
  if '0' ≤ c && c ≤ '9' then some (c.toNat - 48)
  else if 'a' ≤ c && c ≤ 'f' then some (c.toNat - 87)
  else if 'A' ≤ c && c ≤ 'F' then some (c.toNat - 55)
  else none

def readHex (f : Flags) : Nat → Nat → List Char → Option (Nat × List Char)
  | 0, value, cs => some (value,cs)
  | more + 1, value, cs =>
    match f.skip cs with
    | c :: rest => do readHex f more (value * 16 + (← hexDigit? c)) rest
    | [] => none

def readEscape (f : Flags) : List Char → Option (Escape × List Char)
  | [] => none
  | c :: rest =>
    if c = 'x' || c = 'u' || c = 'U' then do
      let (code,rest) ← readHex f (if c = 'x' then 2 else if c = 'u' then 4 else 8) 0 rest
      if code.isValidChar then some (.literal code (c = 'x'),rest) else none
    else if "dsw".contains c then some (.class false,rest)
    else if "DSW".contains c then some (.class true,rest)
    else if "aftnrv".contains c then some (.literal 0 false,rest)
    else if c = 'A' || c = 'z' then some (.condition false,rest)
    else if c = 'b' || c = 'B' || c = '<' || c = '>' then some (.condition true,rest)
    else if c.isAlphanum || 128 ≤ c.toNat then none
    else some (.literal c.toNat false,rest)

/-! ## Classes

A class of bytes may hold none above the first 128, since such a byte is no whole character; it holds all of
them or none. -/

/-- Reads a member of a class: its number, or for a class by itself whether it holds bytes above. -/
def readMember (f : Flags) : List Char → Option ((Nat ⊕ Bool) × List Char)
  | [] => none
  | '\\' :: rest => do
    match ← readEscape f rest with
    | (.literal code _,rest) => if f.wide || code < 128 then some (.inl code,rest) else none
    | (.class negated,rest) => if f.wide then none else some (.inr negated,rest)
    | (.condition _,_) => none
  | c :: rest => if f.wide || c.toNat < 128 then some (.inl c.toNat,rest) else none

def readRange (f : Flags) (cs : List Char) : Option (Bool × List Char) := do
  let (first,rest) ← readMember f cs
  let above := match first with
    | .inl _ => false
    | .inr above => above
  match f.skip rest with
  | [] => none
  | '-' :: after =>
    match f.skip after with
    | [] => none
    | ']' :: _ | '-' :: _ => some (above,'-' :: after)
    | after =>
      match first, ← readMember f after with
      | .inl low, (.inl high,rest) => if low ≤ high then some (false,rest) else none
      | _, _ => none
  | rest => some (above,rest)

def classNames : List String :=
  ["alnum","alpha","ascii","blank","cntrl","digit","graph","lower","print","punct","space","upper",
    "word","xdigit"]

def readNamed : List Char → Option (Bool × List Char)
  | ':' :: rest =>
    let negated := rest.head? = some '^'
    let rest := if negated then rest.drop 1 else rest
    match rest.dropWhile (· ≠ ':') with
    | ':' :: ']' :: after =>
      if classNames.contains (String.ofList (rest.takeWhile (· ≠ ':'))) then some (negated,after) else none
    | _ => none
  | _ => none

def skipDashes (f : Flags) : Nat → Bool → List Char → Bool × List Char
  | 0, found, cs => (found,cs)
  | fuel + 1, found, cs =>
    match f.skip cs with
    | '-' :: rest => skipDashes f fuel true rest
    | cs => (found,cs)

mutual

/-- Reads a class behind its bracket: whether it holds bytes above. A bracket that comes first closes
nothing. -/
def readClass (f : Flags) : Nat → List Char → Option (Bool × List Char)
  | 0, _ => none
  | fuel + 1, cs =>
    let cs := f.skip cs
    let negated := cs.head? = some '^'
    let (dashes,cs) := skipDashes f fuel false (if negated then cs.drop 1 else cs)
    readMembers f fuel negated id false (if !dashes && cs.head? = some ']' then cs.drop 1 else cs)

/-- Reads the members up to the closing bracket; `combine` joins those since the last operator to what was
before. -/
def readMembers (f : Flags) : Nat → Bool → (Bool → Bool) → Bool → List Char → Option (Bool × List Char)
  | 0, _, _, _, _ => none
  | fuel + 1, negated, combine, above, cs =>
    match f.skip cs with
    | [] => none
    | ']' :: rest => some (negated != combine above,rest)
    | '&' :: '&' :: rest => readMembers f fuel negated (fun right => combine above && right) false rest
    | '-' :: '-' :: rest => readMembers f fuel negated (fun right => combine above && !right) false rest
    | '~' :: '~' :: rest => readMembers f fuel negated (fun right => combine above != right) false rest
    | '[' :: rest => do
      let (more,rest) ← (readNamed rest).or (readClass f fuel rest)
      readMembers f fuel negated combine (above || more) rest
    | cs => do
      let (more,rest) ← readRange f cs
      readMembers f fuel negated combine (above || more) rest

end

/-! ## Groups -/

/-- Reads flags up to a colon or a bracket; `read` holds those read so far, last one first. -/
def readFlags (f : Flags) (read : List Char) : List Char → Option (Flags × List Char × Char × List Char)
  | [] => none
  | c :: rest =>
    if c = ':' || c = ')' then (if read.head? = some '-' then none else some (f,read,c,rest))
    else if read.contains c || !"imsUuRx-".contains c then none
    else
      let on := !read.contains '-'
      let f := if c = 'i' then {f with foldCase := on} else if c = 'u' then {f with wide := on}
        else if c = 'x' then {f with spaced := on} else f
      readFlags f (c :: read) rest

def readName (cs : List Char) : Option (List Char × List Char) :=
  match cs.takeWhile (· ≠ '>'), cs.dropWhile (· ≠ '>') with
  | first :: more, _ :: rest =>
    if (first = '_' || Text.isLetter first) &&
        more.all (fun c => c = '_' || c = '.' || c = '[' || c = ']' || Text.isLetterOrNumber c) then
      some (first :: more,rest)
    else none
  | _, _ => none

inductive Opening where
  | group (inside : Flags) (name : Option (List Char))
  | flags (after : Flags)

/-- Reads what follows an opening bracket. Nothing can look ahead or behind. -/
def readOpening (f : Flags) (cs : List Char) : Option (Opening × List Char) :=
  match f.skip cs with
  | '?' :: '<' :: '=' :: _ | '?' :: '<' :: '!' :: _ => none
  | '?' :: 'P' :: '<' :: rest | '?' :: '<' :: rest => do
    let (name,rest) ← readName rest
    some (.group f (some name),rest)
  | '?' :: rest => do
    match ← readFlags f [] rest with
    | (inside,_,':',rest) => some (.group inside none,rest)
    | (_,[],_,_) => none
    | (after,_,_,rest) => some (.flags after,rest)
  | cs => some (.group f none,cs)

structure Reading where
  flags : Flags := {}
  outside : List Flags := []
  repeatable : Bool := false
  names : List (List Char) := []

def depthLimit : Nat := 250

def Reading.step (r : Reading) : List Char → Option (Reading × List Char)
  | [] => none
  | c :: rest =>
    let f := r.flags
    let item : Reading := {r with repeatable := true}
    let keepsCase := !(f.wide && f.foldCase)
    match c with
    | '(' => do
      match ← readOpening f rest with
      | (.flags after,rest) => some ({r with flags := after, repeatable := false},rest)
      | (.group inside name,rest) =>
        if name.any r.names.contains || depthLimit ≤ r.outside.length then none
        else some (⟨inside,f :: r.outside,false,name.toList ++ r.names⟩,rest)
    | ')' =>
      match r.outside with
      | [] => none
      | before :: outside => some ({item with flags := before, outside},rest)
    | '|' => some ({r with repeatable := false},rest)
    | '*' | '+' | '?' =>
      if r.repeatable then some (r,if rest.head? = some '?' then rest.drop 1 else rest) else none
    | '\x7b' => none
    | '[' => do
      let (above,rest) ← readClass f (2 * rest.length + 2) rest
      if keepsCase && (f.wide || !above) then some (item,rest) else none
    | '.' => if f.wide then some (item,rest) else none
    | '^' | '$' => some (item,rest)
    | '\\' => do
      match ← readEscape f rest with
      | (.literal code byte,rest) =>
        if keepsCase && (f.wide || !byte || code < 128) then some (item,rest) else none
      | (.class negated,rest) => if f.wide || negated then none else some (item,rest)
      | (.condition aboutWords,rest) => if f.wide && aboutWords then none else some (item,rest)
    | _ => if keepsCase then some (item,rest) else none

/-- Reads a pattern to its end; every step takes a character at least. -/
def Reading.run : Nat → Reading → List Char → Bool
  | 0, r, cs => cs.isEmpty && r.outside.isEmpty
  | fuel + 1, r, cs =>
    match r.flags.skip cs with
    | [] => r.outside.isEmpty
    | cs =>
      match r.step cs with
      | some (r,rest) => run fuel r rest
      | none => false

def isPattern (s : List Char) : Bool := Reading.run s.length {} s

end Hostkeeper.LogFilter.Pattern
