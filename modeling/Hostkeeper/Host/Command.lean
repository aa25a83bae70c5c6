import Hostkeeper.OsError
import Hostkeeper.Text.Blank
import Hostkeeper.Text.Utf8

/-! Commands, and what comes of running them. -/
namespace Hostkeeper

structure Command where
  program : String
  args : List String
  deriving DecidableEq, Repr

namespace Command

def text (c : Command) : String := Text.joinWith " " (c.program :: c.args)

def words (c : Command) : List String := c.program :: c.args

end Command

structure ProgramEnd where
  code : Option Int
  stdout : List UInt8
  stderr : List UInt8
  deriving DecidableEq, Repr

/-- The end of a command: its exit code, none if it was killed or could not be started, and all its output. -/
structure Output where
  code : Option Int
  text : String
  deriving DecidableEq, Repr

namespace Output

def ok (text : String) : Output := ⟨some 0,text⟩

def success (o : Output) : Bool := o.code = some 0

/-- What a program wrote, errors last. A program that could not be started leaves the reason and no code. -/
def ofProgram (program : String) : Except OsError ProgramEnd → Output
  | .ok fin => ⟨fin.code,Text.Utf8.decodeLossy fin.stdout ++ Text.Utf8.decodeLossy fin.stderr⟩
  | .error e => ⟨none,"failed to execute " ++ program ++ ": " ++ e.message⟩

def lines (o : Output) : List String := Text.filledLines o.text

end Output

structure CommandError where
  command : String
  status : String
  output : String
  deriving DecidableEq, Repr

def CommandError.message (e : CommandError) : String :=
  "`" ++ e.command ++ "` failed (exit " ++ e.status ++ "): " ++ e.output

def Output.check (o : Output) (c : Command) : Except CommandError Output :=
  if o.success then .ok o
  else .error ⟨c.text,(o.code.map toString).getD "none",Text.trim o.text⟩

end Hostkeeper
