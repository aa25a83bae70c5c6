import Hostkeeper.KeyMap
import Hostkeeper.Text.Blank

/-! Command lines: options with values, positional values, requests for help or the version, and subcommands,
which take the rest of the line. What was given last is checked when the next option comes or the line ends,
so the first fault from the left decides. An option that is left out may come from the environment, and one
given to a subcommand counts before one given ahead of it. -/
namespace Hostkeeper

structure Outcome where
  code : Nat
  output : String := ""
  errors : String := ""
  deriving DecidableEq, Repr

namespace CommandLine

structure ValueOption where
  name : String
  accepts : String → Bool := fun _ => true
  environment : Option String := none

structure Level where
  options : List ValueOption
  /-- The values that each place accepts; all places must be filled. -/
  places : List (String → Bool)
  subcommands : List String
  hasVersion : Bool

inductive Stop where
  | help (command : List String)
  | version
  | misuse
  deriving DecidableEq, Repr

/-- Where a value comes from; a later one counts more. -/
inductive Source where
  | environment
  | line
  deriving DecidableEq, Repr

inductive Pending where
  | nothing
  | bare (name : String)
  | option (name value : String)
  | place (value : String)

structure Found where
  options : KeyMap String := .empty
  places : List String := []
  pending : Pending := .nothing

namespace Level

def option? (l : Level) (name : String) : Option ValueOption := l.options.find? (·.name = name)

def settle (l : Level) (f : Found) : Except Stop Found :=
  match f.pending with
  | .nothing => .ok f
  | .bare _ => .error .misuse
  | .option name value =>
    if f.options.contains name || !(l.option? name).any (·.accepts value) then .error .misuse
    else .ok {f with options := f.options.insert name value, pending := .nothing}
  | .place value =>
    if (l.places[f.places.length]?).any (· value) then
      .ok {f with places := f.places ++ [value], pending := .nothing}
    else .error .misuse

def takePlace (l : Level) (f : Found) (value : String) : Except Stop Found := do
  let f ← l.settle f
  if f.places.length < l.places.length then return {f with pending := .place value} else .error .misuse

def takeOption (l : Level) (f : Found) (text : List Char) : Except Stop Found := do
  let name := String.ofList (text.takeWhile (· ≠ '='))
  let attached? := if text.contains '=' then some (String.ofList ((text.dropWhile (· ≠ '=')).drop 1)) else none
  if name = "help" || (name = "version" && l.hasVersion) then
    if attached?.isSome then .error .misuse
    else
      let _ ← l.settle f
      .error (if name = "help" then .help [] else .version)
  else if (l.option? name).isNone then .error .misuse
  else
    let f ← l.settle f
    match attached? with
    | some value => l.settle {f with pending := .option name value}
    | none => return {f with pending := .bare name}

def takeLetter (l : Level) (f : Found) (letter : Char) : Except Stop Found := do
  if letter = 'h' || (letter = 'V' && l.hasVersion) then
    let _ ← l.settle f
    .error (if letter = 'h' then .help [] else .version)
  else .error .misuse

/-- Reads arguments up to a subcommand, which is given back with the rest. After two dashes, `plain` is set and
every argument is a positional value. -/
def scan (l : Level) (plain : Bool) (f : Found) : List String → Except Stop (Found × Option (String × List String))
  | [] => .ok (f,none)
  | arg :: rest =>
    if plain then do l.scan true (← l.takePlace f arg) rest
    else
      match f.pending, arg.toList with
      | _, ['-','-'] => l.scan true f rest
      | _, '-' :: '-' :: text => do l.scan false (← l.takeOption f text) rest
      | _, '-' :: letter :: _ => do l.scan false (← l.takeLetter f letter) rest
      | .bare name, _ => l.scan false {f with pending := .option name arg} rest
      | _, _ =>
        if l.subcommands.contains arg then .ok (f,some (arg,rest))
        else do l.scan false (← l.takePlace f arg) rest

def values (l : Level) (lookup : String → Option String) (f : Found) :
    Except Stop (KeyMap (Source × String) × List String) := do
  let f ← l.settle f
  let found : KeyMap (Source × String) := f.options.map fun _ value => (.line,value)
  let all ← l.options.foldlM (fun (m : KeyMap (Source × String)) o =>
    match if m.contains o.name then none else o.environment.bind lookup with
    | none => .ok m
    | some value => if o.accepts value then .ok (m.insert o.name (.environment,value)) else .error .misuse) found
  if f.places.length < l.places.length then .error .misuse else return (all,f.places)

end Level

/-- The values of two levels as one: the inner one counts unless only the outer one was given in the line. -/
def mergeLevels (outer inner : KeyMap (Source × String)) : KeyMap (Source × String) :=
  inner.entries.foldl (fun m e =>
    match m.get? e.1 with
    | some (.line,_) => if e.2.1 = .line then m.insert e.1 e.2 else m
    | _ => m.insert e.1 e.2) outer

end CommandLine

end Hostkeeper
