import Hostkeeper.Schema.Error

/-! Columns that hold one of a few words. A word is read without regard to blanks around it or to ASCII case, and
written in lower case. -/
namespace Hostkeeper

class Word (α : Type) where
  column : String
  all : List α
  text : α → String

def Word.read? {α : Type} [Word α] (s : String) : Option α :=
  (Word.all (α := α)).find? fun w => Word.text w = Text.lower (Text.trim s)

def Word.read {α : Type} [Word α] (s : String) : Except SchemaError α :=
  match Word.read? s with
  | some w => .ok w
  | none => .error (.invalidValue (Word.column α) s)

inductive LogLevel where
  | debug
  | info
  | warning
  | error
  | critical
  deriving DecidableEq, Repr

instance : Word LogLevel where
  column := "logging_level"
  all := [.debug,.info,.warning,.error,.critical]
  text
    | .debug => "debug"
    | .info => "info"
    | .warning => "warning"
    | .error => "error"
    | .critical => "critical"

/-- The log filter for a level: there is none above errors. -/
def LogLevel.directive : LogLevel → String
  | .debug => "debug"
  | .info => "info"
  | .warning => "warn"
  | .error | .critical => "error"

inductive LinkState where
  | up
  | down
  deriving DecidableEq, Repr

instance : Word LinkState where
  column := "state"
  all := [.up,.down]
  text
    | .up => "up"
    | .down => "down"

inductive PowerState where
  | run
  | stop
  deriving DecidableEq, Repr

instance : Word PowerState where
  column := "state"
  all := [.run,.stop]
  text
    | .run => "run"
    | .stop => "stop"

end Hostkeeper
