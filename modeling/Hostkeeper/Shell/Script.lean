import Hostkeeper.Shell.Octets

/-! Shell scripts as trees: words with their expansions, redirections and commands. -/
namespace Hostkeeper.Shell

inductive TrimEnd where
  | front
  | back
  deriving DecidableEq

inductive RedirectKind where
  | read
  | write (forced : Bool)
  | append
  | readWrite
  | copy (input : Bool)
  | here (index : Nat)
  deriving DecidableEq

mutual

/-- A piece of a word. The results of unquoted expansions are split into fields. -/
inductive Part where
  | text (octets : String) (quoted : Bool)
  | mark
  | param (name : String) (use : ParamUse) (quoted : Bool)
  | output (command : Option Command) (quoted : Bool)
  | sum (parts : List Part) (quoted : Bool)

/-- What is made of a parameter. With `orEmpty`, an empty value counts as none. -/
inductive ParamUse where
  | value
  | length
  | default (orEmpty : Bool) (word : List Part)
  | assign (orEmpty : Bool) (word : List Part)
  | demand (orEmpty : Bool) (word : List Part)
  | alternative (orEmpty : Bool) (word : List Part)
  | trim (side : TrimEnd) (longest : Bool) (pattern : List Part)
  | bad

inductive Redirect where
  | to (descriptor : Nat) (kind : RedirectKind) (target : List Part)

inductive Command where
  | simple (line : Nat) (sets : List (String × List Part)) (words : List (List Part)) (redirects : List Redirect)
  | pipe (stages : List Command)
  | background (line : Nat) (body : Command)
  | negate (body : Command)
  | both (first second : Command)
  | ifOk (first second : Command)
  | ifFailed (first second : Command)
  | choose (test yes : Option Command) (no : Option Command)
  | loop (wanted : Bool) (test body : Option Command)
  | each (line : Nat) (name : String) (words : List (List Part)) (body : Option Command)
  | select (line : Nat) (word : List Part) (cases : List (List (List Part) × Option Command))
  | apart (line : Nat) (body : Option Command) (redirects : List Redirect)
  | redirected (line : Nat) (body : Option Command) (redirects : List Redirect)
  | define (line : Nat) (name : String) (body : Command)

end

abbrev Word := List Part

def Word.plain? : Word → Option String
  | [.text s false] => some s
  | _ => none

def Word.cons : Part → Word → Word
  | .text s quoted, .text t quoted' :: rest =>
    if quoted = quoted' then .text (s ++ t) quoted :: rest else .text s quoted :: .text t quoted' :: rest
  | part, rest => part :: rest

def Word.assignment? : Word → Option (String × Word)
  | .text s false :: rest =>
    let name := s.toList.takeWhile (· ≠ '=')
    match s.toList.dropWhile (· ≠ '=') with
    | _ :: value =>
      if isName (String.ofList name) then
        some (String.ofList name,if value.isEmpty then rest else .text (String.ofList value) false :: rest)
      else none
    | [] => none
  | _ => none

end Hostkeeper.Shell
