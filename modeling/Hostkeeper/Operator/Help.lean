import Hostkeeper.Config
import Hostkeeper.Text.Terminal

/-! The help texts of the operator's command line. -/
namespace Hostkeeper.Operator

def optionHelp (lookup : String → Option String) : List (String × String) :=
  let defaults : Config := {}
  let environment (name : String) : String := " [env: " ++ name ++ "=" ++ (lookup name).getD "" ++ "]"
  let default (value : String) : String := " [default: " ++ value ++ "]"
  [("    --remote <REMOTE>","Store remote" ++ environment "EDGE_STORE_REMOTE" ++ default defaults.storeRemote),
   ("    --db <DB>","Database name" ++ environment "EDGE_STORE_DB" ++ default defaults.storeDb),
   ("    --schema <SCHEMA>","Schema file the database was created from" ++ environment "EDGE_SCHEMA_PATH" ++
      default defaults.schemaPath),
   ("    --format <FORMAT>","Output format (table, json)" ++ default "table"),
   ("-h, --help","Print help")]

def helpSection (heading : String) (entries : List (String × String)) : String :=
  let width := (entries.map (·.1.length)).foldl max 0
  let blanks (n : Nat) : String := String.ofList (List.replicate n ' ')
  heading ++ ":\n" ++ String.join (entries.map fun e =>
    "  " ++ e.1 ++ blanks (width - e.1.length) ++ "  " ++
      Text.joinWith ("\n" ++ blanks (width + 4)) (Text.splitOn '\n' e.2) ++ "\n")

/-- The help on a command, control sequences in it as they are. -/
def rawHelp (lookup : String → Option String) : List String → String
  | ["set"] =>
    "Set one field of a desired-state row, creating the row if needed\n\n" ++
    "Usage: edgectl set [OPTIONS] <RESOURCE> <NAME> <KEY> <VALUE>\n\n" ++
    helpSection "Arguments" [
      ("<RESOURCE>","Resource kind [possible values: interface, system, vm]"),
      ("<NAME>","Row name (ignored for system)"),("<KEY>","Field name"),("<VALUE>","Field value")] ++ "\n" ++
    helpSection "Options" (optionHelp lookup)
  | ["show"] =>
    "Print every row of a table\n\nUsage: edgectl show [OPTIONS] <TABLE>\n\n" ++
    helpSection "Arguments" [("<TABLE>","Table name, e.g. Interface or VirtualMachine")] ++ "\n" ++
    helpSection "Options" (optionHelp lookup)
  | ["help"] =>
    "Print this message or the help of the given subcommand(s)\n\nUsage: edgectl help [COMMAND]\n\n" ++
    helpSection "Commands" [
      ("set","Set one field of a desired-state row, creating the row if needed"),
      ("show","Print every row of a table"),
      ("help","Print this message or the help of the given subcommand(s)")]
  | _ =>
    "Edit and inspect edge host desired state\n\nUsage: edgectl [OPTIONS] <COMMAND>\n\n" ++
    helpSection "Commands" [
      ("set","Set one field of a desired-state row, creating the row if needed"),
      ("show","Print every row of a table"),
      ("help","Print this message or the help of the given subcommand(s)")] ++ "\n" ++
    helpSection "Options" (optionHelp lookup ++ [("-V, --version","Print version")])

def helpText (lookup : String → Option String) (command : List String) : String :=
  Text.Terminal.strip (rawHelp lookup command)

end Hostkeeper.Operator
