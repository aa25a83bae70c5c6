import Hostkeeper.Host.Path
import Hostkeeper.KeyMap
import Hostkeeper.OsError
import Hostkeeper.Text.Utf8

/-! A tree of files. A path is walked one step at a time, a relative one from the home directory; symbolic links
are followed, at most forty of them. A step `.` and a slash at the end ask for a directory. Names and paths
have a greatest length. -/
namespace Hostkeeper

inductive FileNode where
  | dir
  | file (bytes : List UInt8) (executable : Bool)
  | link (target : String)
  | device (full : Bool)
  deriving DecidableEq

abbrev Location := List String

def Location.path (l : Location) : String := "/" ++ Text.joinWith "/" l

/-- Nodes under their absolute paths; the root is always there. -/
structure FileTree where
  nodes : KeyMap FileNode
  home : Location
  deriving DecidableEq

/-- Where the walk along a path ends: in a directory, or at a name in one, which need not be there. -/
inductive Goal where
  | dir (location : Location)
  | entry (parent : Location) (name : String) (slash : Bool)
  deriving DecidableEq

def Goal.location : Goal → Location
  | .dir location => location
  | .entry parent name _ => parent ++ [name]

def nameLimit : Nat := 255

def pathLimit : Nat := 4095

namespace FileTree

def empty : FileTree := ⟨.empty,[]⟩

def node? (t : FileTree) (l : Location) : Option FileNode :=
  if l.isEmpty then some .dir else t.nodes.get? (Location.path l)

def put (t : FileTree) (l : Location) (node : FileNode) : FileTree :=
  {t with nodes := t.nodes.insert (Location.path l) node}

/-- Walks steps from a directory. `follow` tells whether a link at the last name is followed, given whether a
slash comes after it; any other link always is. -/
def walk (t : FileTree) (follow : Bool → Bool) : Nat → Location → List String → Except OsError Goal
  | _, here, [] => .ok (.dir here)
  | links, here, step :: rest =>
    if step = "." || step = "" then walk t follow links here rest
    else if step = ".." then walk t follow links here.dropLast rest
    else if step.utf8ByteSize > nameLimit then .error .nameTooLong
    else
      let last := rest.all (· = "")
      match t.node? (here ++ [step]) with
      | some (.link target) =>
        if last && !follow (!rest.isEmpty) then .ok (.entry here step (!rest.isEmpty))
        else
          match links with
          | 0 => .error .tooManyLinks
          | links + 1 =>
            walk t follow links (if Text.startsWith target "/" then [] else here) (pathSteps target ++ rest)
      | node =>
        if last then .ok (.entry here step (!rest.isEmpty))
        else
          match node with
          | none => .error .notFound
          | some .dir => walk t follow links (here ++ [step]) rest
          | some _ => .error .notDirectory
  termination_by links _ steps => (links,steps.length)

def goal (t : FileTree) (follow : Bool → Bool) (path : String) : Except OsError Goal :=
  if path.contains '\x00' then .error (.other "file name contained an unexpected NUL byte")
  else if path.isEmpty then .error .notFound
  else if path.utf8ByteSize > pathLimit then .error .nameTooLong
  else walk t follow 40 (if Text.startsWith path "/" then [] else t.home) (pathSteps path)

def look (t : FileTree) (path : String) : Except OsError (Location × FileNode) := do
  let goal ← t.goal (fun _ => true) path
  match goal, t.node? goal.location with
  | .entry _ _ true, some (.file ..) | .entry _ _ true, some (.device _) => .error .notDirectory
  | .dir location, _ => return (location,.dir)
  | _, some node => return (goal.location,node)
  | _, none => .error .notFound

def contains (t : FileTree) (path : String) : Bool := (t.look path).isOk

def isDir (t : FileTree) (path : String) : Bool :=
  match t.look path with
  | .ok (_,.dir) => true
  | _ => false

def canonicalize (t : FileTree) (path : String) : Except OsError String := do
  return Location.path (← t.look path).1

def readBytes (t : FileTree) (path : String) : Except OsError (List UInt8) := do
  match (← t.look path).2 with
  | .file bytes _ => return bytes
  | .device _ => return []
  | _ => .error .isDirectory

def readText (t : FileTree) (path : String) : Except OsError String := do
  match Text.Utf8.decode? (← t.readBytes path) with
  | some text => return text
  | none => .error .notText

def write (t : FileTree) (path : String) (bytes : List UInt8) : Except OsError FileTree := do
  match ← t.goal (!·) path with
  | .dir _ => .error .isDirectory
  | .entry parent name slash =>
    if slash then .error .isDirectory
    else
      match t.node? (parent ++ [name]) with
      | some .dir => .error .isDirectory
      | some (.device full) => if full && !bytes.isEmpty then .error .noSpace else return t
      | some (.file _ executable) => return t.put (parent ++ [name]) (.file bytes executable)
      | _ => return t.put (parent ++ [name]) (.file bytes false)

def makeDir (t : FileTree) (path : String) : Except OsError FileTree := do
  match ← t.goal (fun _ => false) path with
  | .dir _ => .error .exists
  | .entry parent name _ =>
    match t.node? (parent ++ [name]) with
    | some _ => .error .exists
    | none => return t.put (parent ++ [name]) .dir

def ensureDir (t : FileTree) (path : String) : Except OsError Unit × FileTree :=
  match t.makeDir path with
  | .ok t => (.ok (),t)
  | .error e => (if t.isDir path then .ok () else .error e,t)

/-- Makes a directory and those above it that are missing; `depth` bounds how many there can be. -/
def makeDirs (t : FileTree) : Nat → String → Except OsError Unit × FileTree
  | 0, _ => (.error .notFound,t)
  | depth + 1, path =>
    if path.isEmpty then (.ok (),t)
    else
      match t.ensureDir path with
      | (.error .notFound,t) =>
        match parentPath? path with
        | none => (.error (.other "failed to create whole tree"),t)
        | some parent =>
          match makeDirs t depth parent with
          | (.error e,t) => (.error e,t)
          | (.ok (),t) => t.ensureDir path
      | result => result

/-- Makes a directory and those above it that are missing. What was made before a failure stays. -/
def createDirAll (t : FileTree) (path : String) : Except OsError Unit × FileTree :=
  t.makeDirs ((pathParts path).length + 2) path

/-- Puts a node at a path, and directories above it. A file takes the place of one that a link leads to. -/
def plant (t : FileTree) (path : String) (node : FileNode) : FileTree :=
  match node with
  | .dir => (t.createDirAll path).2
  | node =>
    let t := (t.createDirAll ((parentPath? path).getD "/")).2
    let follow := match node with
      | .file .. => true
      | _ => false
    match t.goal (fun _ => follow) path with
    | .ok goal => t.put goal.location node
    | .error _ => t

def remove (t : FileTree) (path : String) : FileTree :=
  match t.goal (fun _ => false) path with
  | .ok goal =>
    let here := Location.path goal.location
    {t with nodes := t.nodes.filter fun p _ => p ≠ here && !Text.startsWith p (here ++ "/")}
  | .error _ => t

def list (t : FileTree) (path : String) : Except OsError (List String) := do
  match ← t.look path with
  | (l,.dir) =>
    let opening := if l.isEmpty then "/" else Location.path l ++ "/"
    return t.nodes.keys.filterMap fun p =>
      if Text.startsWith p opening then
        let name := String.ofList (p.toList.drop opening.length)
        if name.isEmpty || name.contains '/' then none else some name
      else none
  | _ => .error .notDirectory

def loadAt {α : Type} (t : FileTree) (load : Location → String → List UInt8 → Except OsError α)
    (path : String) : Except OsError α := do
  match ← t.look path with
  | (l,.file bytes true) => load l path bytes
  | _ => .error .permissionDenied

/-- Tries the search directories in turn. A failure that does not just mean that the program is elsewhere ends
the search. -/
def searchIn {α : Type} (t : FileTree) (load : Location → String → List UInt8 → Except OsError α)
    (name : String) : Bool → OsError → List String → Except OsError α
  | denied, last, [] => .error (if denied then .permissionDenied else last)
  | denied, _, dir :: dirs =>
    match t.loadAt load (if dir.isEmpty then name else dir ++ "/" ++ name) with
    | .ok program => .ok program
    | .error e =>
      match e with
      | .permissionDenied => searchIn t load name true e dirs
      | .notFound | .notDirectory => searchIn t load name denied e dirs
      | e => .error e

def program {α : Type} (t : FileTree) (search : List String) (name : String)
    (load : Location → String → List UInt8 → Except OsError α) : Except OsError α :=
  if name.contains '\x00' then .error (.other "nul byte found in provided data")
  else if name.contains '/' then t.loadAt load name
  else if name.isEmpty then .error .notFound
  else if name.utf8ByteSize > nameLimit then .error .nameTooLong
  else t.searchIn load name false .notFound search

end FileTree

end Hostkeeper
