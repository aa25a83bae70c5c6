import Hostkeeper.Host.World

/-! Scripted tools. A list of rules answers every command: the first rule that fits it and is not used up gives
the reply, and a command that no rule fits succeeds without output. -/
namespace Hostkeeper.Rehearsal

/-- A scripted reply, and the commands that it is for; what is left out fits every command. -/
structure Rule where
  program : Option String := none
  opening : Option String := none
  argument : Option String := none
  times : Option Nat := none
  code : Option Int
  output : String
  creates : Option String := none

def Rule.fits (r : Rule) (used : Nat) (c : Command) : Bool :=
  r.program.all (· = c.program) && r.opening.all (Text.startsWith c.text ·) && r.argument.all c.args.contains &&
    r.times.all (used < ·)

def chosen (rules : List Rule) (used : List Nat) (c : Command) : Option Nat :=
  (rules.zip used).findIdx? fun r => r.1.fits r.2 c

def usage (rules : List Rule) (history : List Command) : List Nat :=
  history.foldl (fun used c => match chosen rules used c with
    | some i => used.modify i (· + 1)
    | none => used) (rules.map fun _ => 0)

def tools (rules : List Rule) : Tools := fun history c =>
  match (chosen rules (usage rules history) c).bind (rules[·]?) with
  | some r => ⟨⟨r.code,r.output⟩,r.creates.toList⟩
  | none => ⟨.ok "",[]⟩

end Hostkeeper.Rehearsal
