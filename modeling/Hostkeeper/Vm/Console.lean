import Hostkeeper.Text.Utf8

/-! The console of a virtual machine: its last lines, oldest first. -/
namespace Hostkeeper

structure ConsoleBuffer where
  lines : List String
  capacity : Nat
  deriving DecidableEq, Repr

namespace ConsoleBuffer

def new (capacity : Nat) : ConsoleBuffer := ⟨[],max capacity 1⟩

def usual : Nat := 200

def push (b : ConsoleBuffer) (line : String) : ConsoleBuffer :=
  {b with lines := (if b.lines.length = b.capacity then b.lines.drop 1 else b.lines) ++ [line]}

def pushAll (b : ConsoleBuffer) (lines : List String) : ConsoleBuffer := lines.foldl push b

def segments : List UInt8 → List (List UInt8)
  | [] => []
  | b :: rest =>
    if b = 10 then [b] :: segments rest
    else match segments rest with
      | [] => [[b]]
      | piece :: pieces => (b :: piece) :: pieces

/-- The line of one segment: broken sequences are replaced, and line ends at its end are dropped. -/
def line (segment : List UInt8) : String :=
  String.ofList
    (((Text.Utf8.decodeLossy segment).toList.reverse.dropWhile fun c => c = '\n' || c = '\r').reverse)

def pump (b : ConsoleBuffer) (stream : List UInt8) : ConsoleBuffer :=
  b.pushAll ((segments stream).map line)

end ConsoleBuffer

end Hostkeeper
