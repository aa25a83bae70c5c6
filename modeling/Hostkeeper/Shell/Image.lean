import Hostkeeper.Shell.Tools

/-! What runs when a file is executed: one of the tools, or the interpreter that a script names in its first line. -/
namespace Hostkeeper.Shell

structure Image where
  tool : String
  name : String
  args : List String

namespace Image

def interpreter? (bytes : List UInt8) : Option (String × Option String) :=
  match (bytes.take 256).map fun b => Char.ofNat b.toNat with
  | '#' :: '!' :: rest =>
    let isBlank (c : Char) : Bool := c = ' ' || c = '\t'
    let line := (rest.takeWhile (· ≠ '\n')).dropWhile isBlank
    let program := line.takeWhile fun c => !isBlank c
    let arg := ((line.dropWhile fun c => !isBlank c).dropWhile isBlank).reverse.dropWhile isBlank |>.reverse
    if program.isEmpty then none
    else some (String.ofList program,if arg.isEmpty then none else some (String.ofList arg))
  | _ => none

def toolAt? : Location → Option String
  | ["usr","bin",name] => if Tools.names.contains name then some name else none
  | _ => none

/-- What runs when the file at a location is executed under a path; `more` bounds the interpreters of
interpreters. -/
def ofFile (t : FileTree) : Nat → Location → String → List String → List UInt8 → Except OsError Image
  | 0, _, _, _, _ => .error .tooManyLinks
  | more + 1, location, path, args, bytes =>
    match toolAt? location with
    | some tool => .ok ⟨tool,path,args⟩
    | none =>
      match interpreter? bytes with
      | none => .error .exchangeFormat
      | some (program,arg) => do
        let (location,bytes) ← t.loadAt (fun location _ bytes => .ok (location,bytes)) (toText program)
        ofFile t more location program (arg.toList ++ path :: args) bytes

end Image

end Hostkeeper.Shell
