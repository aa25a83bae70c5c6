import Hostkeeper.Json.Access
import Hostkeeper.Rehearsal.Rules
import Hostkeeper.Rehearsal.Scene

/-! Rehearsals as JSON data: the files that are there, the rules of the tools, and the script of the store's
client. Relative paths start at a root of their own. -/
namespace Hostkeeper.Rehearsal

open Json.Access

def root : String := "/tmp/host-root-4f1c"

def under (path : String) : String := joinPath root path

/-- A tree with the usual directories, the tools, and the root, which is its home. -/
def baseFiles : FileTree :=
  let start : FileTree := ⟨.empty,pathSteps root⟩
  let dirs := [root,"/dev","/etc","/home","/proc","/root","/sys","/usr/bin","/usr/lib","/var"]
  let t := (dirs.foldl (fun t path => t.plant path .dir) start).plant "/etc/passwd" (.file [] false)
  let t := (t.plant "/dev/null" (.device false)).plant "/dev/full" (.device true)
  let t := t.plant "/bin" (.link "usr/bin")
  Shell.Tools.names.foldl (fun t name => t.plant ("/usr/bin/" ++ name) (.file [] true)) t

def plantLayout (v : Json) (t : FileTree) : Understood FileTree := do
  let t := (← texts v "dirs").foldl (fun t path => t.plant (under path) .dir) t
  let put (executable : Bool) (t : FileTree) (e : String × Json) : Understood FileTree := do
    return t.plant (under e.1) (.file (← asBytes e.2) executable)
  let t ← (fieldsOf (get v "files")).entries.foldlM (put false) t
  let t ← (fieldsOf (get v "scripts")).entries.foldlM (put true) t
  (← list v "symlinks").foldlM (fun t link => do
    match ← asList link with
    | [path,target] => return t.plant (under (← asText path)) (.link (← asText target))
    | _ => .error "expected a pair") t

def readRule (v : Json) : Understood Rule := do
  return {program := ← text? v "program", opening := ← text? v "prefix", argument := ← text? v "contains"
          times := ← nat? v "times", code := ← unlessNull asInt (get v "code")
          output := (← text? v "output").getD "", creates := ← text? v "touch"}

def readToolRule (v : Json) : Understood Rule := do
  return {opening := ← text? v "prefix", code := some ((← unlessNull asInt (get v "code")).getD 0)
          output := (← text? v "stdout").getD "" ++ (← text? v "stderr").getD ""}

def readAnswer (v : Json) : Understood Answer := do
  let stdout ← match get v "stdout_hex" with
    | .text hex => pure (ofHex hex.toList)
    | _ => pure (Text.Utf8.encode ((← text? v "stdout").getD ""))
  return ⟨⟨some ((← unlessNull asInt (get v "code")).getD 0),stdout,
    Text.Utf8.encode ((← text? v "stderr").getD "")⟩,flag v "unlink"⟩

def readMonitor (v : Json) : Understood Monitor := do
  let lines := (List.range (← nat v "lines" 0)).flatMap fun _ => Text.Utf8.encode "[]\n"
  return ⟨lines ++ ofHex ((← text? v "hex").getD "").toList,get v "then" = .text "exit"⟩

def toolNames : List String := ["hostname","ovs-vsctl","ip","iscsiadm","findmnt","mount","qemu"]

def readEnvironment (v : Json) : String → Option String :=
  let env := fieldsOf (get v "env")
  fun name => ((env.get? name).bind Json.text?).or (if name = "PATH" then some (under "bin") else none)

def readScene (v : Json) : Understood Scene := do
  let client : Location := pathSteps (under "bin/ovsdb-client")
  let files := (← plantLayout v baseFiles).plant client.path (.file [] true)
  let files := toolNames.foldl (fun t name => t.plant (under ("bin/" ++ name)) (.file [] true)) files
  let search := Text.splitOn ':' ((readEnvironment v "PATH").getD "")
  return {files, search, client, calls := []
          script := ⟨← readAnswer (get v "list_dbs"),← (← list v "transact").mapM readAnswer,
            ← readMonitor (get v "monitor")⟩}

end Hostkeeper.Rehearsal
