import Hostkeeper.Text.Blank

/-! The text of paths. Two texts that name their steps alike are the same path: repeated slashes, a slash at the
end and a `.` that is not the first step do not count. -/
namespace Hostkeeper

def joinPath (dir name : String) : String :=
  if Text.startsWith name "/" then name
  else if dir.isEmpty || dir.toList.getLast? = some '/' then dir ++ name
  else dir ++ "/" ++ name

def pathParts (path : String) : List String :=
  let names := (Text.splitOn '/' path).filter fun name => name ≠ "" && name ≠ "."
  if Text.startsWith path "/" then "/" :: names
  else if path = "." || Text.startsWith path "./" then "." :: names
  else names

def samePath (a b : String) : Bool := pathParts a = pathParts b

def ofPathParts : List String → String
  | "/" :: names => "/" ++ Text.joinWith "/" names
  | parts => Text.joinWith "/" parts

def parentPath? (path : String) : Option String :=
  match pathParts path with
  | [] => none
  | ["/"] => none
  | parts => some (ofPathParts parts.dropLast)

/-- The steps of a path, `.` among them; a last empty one for a slash at the end. -/
def pathSteps (path : String) : List String :=
  let names := (Text.splitOn '/' path).filter (· ≠ "")
  if path.toList.getLast? = some '/' && !names.isEmpty then names ++ [""] else names

end Hostkeeper
