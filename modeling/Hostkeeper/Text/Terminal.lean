/-! Text for a terminal. Control sequences are taken out of a text: escape sequences, device strings, and control
characters other than white space. White space inside a sequence is shown, and what comes after it is text
again. -/
namespace Hostkeeper.Text.Terminal

inductive State where
  | ground
  | escape
  | intermediate
  | control
  | command
  /-- A string that only another sequence ends. -/
  | device
  deriving DecidableEq

def isSpace (c : Char) : Bool := c = '\t' || c = '\n' || c = '\r' || c = '\x0c'

def isShown (c : Char) : Bool := isSpace c || (' ' ≤ c && c ≠ '\x7f')

def afterEscape (c : Char) : State :=
  if c = '[' then .control
  else if c = ']' then .command
  else if c = 'P' || c = 'X' || c = '^' || c = '_' then .device
  else if ' ' ≤ c && c ≤ '/' then .intermediate
  else if '0' ≤ c && c ≤ '~' then .ground
  else .escape

def step (s : State) (c : Char) : State × Bool :=
  if c = '\x1b' then (.escape,false)
  else if c = '\x18' || c = '\x1a' then (.ground,false)
  else
    match s with
    | .ground => (.ground,isShown c)
    | .escape => (afterEscape c,isSpace c)
    | .intermediate => (if '0' ≤ c && c ≤ '~' then .ground else .intermediate,isSpace c)
    | .control => (if '@' ≤ c && c ≤ '~' then .ground else .control,isSpace c)
    | .command => (if c = '\x07' then .ground else .command,false)
    | .device => (.device,false)

/-- What is shown of a text; `showing` tells whether the character before was shown. -/
def stripFrom : Bool → State → List Char → List Char
  | _, _, [] => []
  | showing, s, c :: rest =>
    if showing && isShown c then c :: stripFrom true (if c < '\x80' then s else .ground) rest
    else
      let (s,shown) := step s c
      if shown then c :: stripFrom true s rest else stripFrom false s rest

def strip (s : String) : String := String.ofList (stripFrom false .ground s.toList)

end Hostkeeper.Text.Terminal
