import Hostkeeper.Operator.Session
import Hostkeeper.Rehearsal.AgentRun
import Hostkeeper.Rehearsal.Reading

/-! The command line. The first word names the program to rehearse, `edgectl` or `edge-agent`, and the other words
are its own; the scene is one line of JSON on standard input. -/
namespace Hostkeeper.Rehearsal

open Json.Access

/-- Rehearses a program on a scene. -/
def perform (program : String) (args : List String) (v : Json) : Understood Outcome := do
  let scene ← readScene v
  let lookup := readEnvironment v
  match program with
  | "edgectl" => return (Operator.run Scene.program lookup args scene).1
  | "edge-agent" =>
    let rules ← (← list v "tools").mapM readToolRule
    return (runAgent lookup args rules (← nat? v "until_calls") scene).outcome
  | _ => .error "expected edgectl or edge-agent"

def performText (args : List String) (sceneText : String) : Outcome :=
  match Json.read (Text.Utf8.encode sceneText) with
  | .error e => {code := 2, errors := e.message ++ "\n"}
  | .ok v =>
    match perform (args.head?.getD "") args.tail v with
    | .ok outcome => outcome
    | .error wrong => {code := 2, errors := wrong ++ "\n"}

end Hostkeeper.Rehearsal

def main (args : List String) : IO UInt32 := do
  let outcome := Hostkeeper.Rehearsal.performText args (← (← IO.getStdin).getLine)
  IO.print outcome.output
  IO.eprint outcome.errors
  return UInt32.ofNat outcome.code
