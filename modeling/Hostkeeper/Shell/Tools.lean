import Hostkeeper.Host.Files
import Hostkeeper.Shell.Pattern
import Hostkeeper.Shell.Printf
import Hostkeeper.Shell.Quoting
import Hostkeeper.Shell.Test

/-! The small programs that scripts are made of. Each one is a function of the files, its input and its arguments. -/
namespace Hostkeeper.Shell.Tools

structure Call where
  name : String
  files : FileTree
  input : Option String
  args : List String

def misuse (name complaint : String) (code : Nat) : ToolEnd :=
  .failure (name ++ ": " ++ complaint ++ "\nTry '" ++ name ++ " --help' for more information.\n") code

/-! ## Arguments -/

/-- Options and operands. Options are letters; those named take a value, in the same argument or the next. -/
structure Arguments where
  options : List (Char × String) := []
  operands : List String := []

inductive Misuse where
  | unknown (letter : Char)
  | unknownWord (word : String)
  | missing (letter : Char)
  | unclear (arg : String) (words : List String)
  | valued (word : String)
  | missingWord (word : String)

def Misuse.text : Misuse → String
  | .unknown letter => "invalid option -- '" ++ String.ofList [letter] ++ "'"
  | .unknownWord word => "unrecognized option '" ++ word ++ "'"
  | .missing letter => "option requires an argument -- '" ++ String.ofList [letter] ++ "'"
  | .unclear arg words =>
    "option '" ++ arg ++ "' is ambiguous; possibilities:" ++ String.join (words.map fun w => " '--" ++ w ++ "'")
  | .valued word => "option '--" ++ word ++ "' doesn't allow an argument"
  | .missingWord word => "option '--" ++ word ++ "' requires an argument"

def readLetters (plain valued : String) :
    List Char → List String → Except Misuse (List (Char × String) × List String)
  | [], rest => .ok ([],rest)
  | c :: cs, rest =>
    if valued.contains c then
      if cs.isEmpty then
        match rest with
        | value :: rest => .ok ([(c,value)],rest)
        | [] => .error (.missing c)
      else .ok ([(c,String.ofList cs)],rest)
    else if plain.contains c then
      (readLetters plain valued cs rest).map fun r => ((c,"") :: r.1,r.2)
    else .error (.unknown c)

/-- The option that a word stands for: the one of that name, or the only one whose name begins so. -/
def findWord (words : List (String × Char)) (arg name : String) : Except Misuse (String × Char) :=
  match words.find? (·.1 = name), words.filter (Text.startsWith ·.1 name) with
  | some word, _ | none, [word] => .ok word
  | none, [] => .error (.unknownWord arg)
  | none, several => .error (.unclear arg (several.map (·.1)))

def readWord (words : List (String × Char)) (valued arg : String) (rest : List String) :
    Except Misuse (Char × String × List String) := do
  let text := arg.toList.drop 2
  let (word,letter) ← findWord words arg (String.ofList (text.takeWhile (· ≠ '=')))
  match text.dropWhile (· ≠ '='), valued.contains letter, rest with
  | _ :: value, true, _ => return (letter,String.ofList value,rest)
  | _ :: _, false, _ => throw (.valued word)
  | [], true, value :: rest => return (letter,value,rest)
  | [], true, [] => throw (.missingWord word)
  | [], false, _ => return (letter,"",rest)

/-- Reads arguments; options may stand behind operands. `fuel` bounds the arguments. -/
def readArguments (plain valued : String) (words : List (String × Char)) :
    Nat → List String → Except Misuse Arguments
  | 0, _ | _, [] => .ok {}
  | fuel + 1, arg :: rest =>
    match arg.toList with
    | ['-','-'] => .ok {operands := rest}
    | '-' :: '-' :: _ => do
      let (letter,value,rest) ← readWord words valued arg rest
      let more ← readArguments plain valued words fuel rest
      return {more with options := (letter,value) :: more.options}
    | '-' :: c :: cs => do
      let (options,rest) ← readLetters plain valued (c :: cs) rest
      let more ← readArguments plain valued words fuel rest
      return {more with options := options ++ more.options}
    | _ => do
      let more ← readArguments plain valued words fuel rest
      return {more with operands := arg :: more.operands}

def withWords (name plain valued : String) (words : List (String × Char)) (args : List String)
    (run : Arguments → ToolEnd) : ToolEnd :=
  match readArguments plain valued words (args.length + 1) args with
  | .ok a => run a
  | .error e => misuse name e.text 1

def withArguments (name plain valued : String) (args : List String) (run : Arguments → ToolEnd) : ToolEnd :=
  withWords name plain valued [] args run

def Arguments.has (a : Arguments) (letter : Char) : Bool := a.options.any (·.1 = letter)

def Arguments.last? (a : Arguments) (letter : Char) : Option String :=
  ((a.options.filter (·.1 = letter)).getLast?).map (·.2)

/-! ## Texts -/

def linesOf (s : String) : List (List Char) := go s.toList
where
  go : List Char → List (List Char)
    | [] => []
    | c :: rest =>
      if c = '\n' then ['\n'] :: go rest
      else match go rest with
        | [] => [[c]]
        | line :: lines => (c :: line) :: lines

def withoutEnd (line : List Char) : List Char := if line.getLast? = some '\n' then line.dropLast else line

def Call.read (c : Call) (path : String) : Except OsError String :=
  if path = "-" || path = "/dev/stdin" then (c.input.map .ok).getD (.error .badDescriptor)
  else (c.files.readBytes (toText path)).map octets

def paths (operands : List String) : List String := if operands.isEmpty then ["-"] else operands

def Call.each (c : Call) (operands : List String) (use : Nat → String → String → List (Nat × String)) :
    ToolEnd :=
  (paths operands).zipIdx.foldl (fun e (path,i) =>
    match c.read path with
    | .ok text => {e with writes := e.writes ++ use i path text, unread := if path = "-" then some "" else e.unread}
    | .error error =>
      {e with
        writes := e.writes ++ [(2,c.name ++ ": " ++ Quoting.path path ++ ": " ++ error.reason ++ "\n")], code := 1})
      {}

/-! ## Copying -/

def visible (tabs : Bool) (c : Char) : List Char :=
  let low (n : Nat) : List Char :=
    if n < 32 then ['^',octet (n + 64)] else if n = 127 then ['^','?'] else [octet n]
  let n := c.toNat
  if c = '\t' && !tabs then [c]
  else if n < 128 then low n
  else 'M' :: '-' :: low (n - 128)

structure CopyStyle where
  number : Bool
  numberFilled : Bool
  squeeze : Bool
  ends : Bool
  tabs : Bool
  visible : Bool

/-- Copies lines; `count` is the number of the last line, `blank` whether it was empty. -/
def copyLines (s : CopyStyle) : Nat → Bool → List (List Char) → List Char
  | _, _, [] => []
  | count, blank, line :: rest =>
    let body := withoutEnd line
    if s.squeeze && blank && body.isEmpty then copyLines s count true rest
    else
      let numbered := if s.numberFilled then !body.isEmpty else s.number
      let count := if numbered then count + 1 else count
      let label := if numbered then
          let digits := Nat.toDigits 10 count
          List.replicate (6 - digits.length) ' ' ++ digits ++ ['\t']
        else []
      let shown := body.flatMap fun c =>
        if c = '\t' && s.tabs then ['^','I'] else if s.visible then visible false c else [c]
      let lineEnd := if line.getLast? = some '\n' then (if s.ends then ['$','\n'] else ['\n']) else []
      label ++ shown ++ lineEnd ++ copyLines s count body.isEmpty rest

def copyWords : List (String × Char) :=
  [("number-nonblank",'b'),("number",'n'),("squeeze-blank",'s'),("show-nonprinting",'v'),("show-ends",'E'),
    ("show-tabs",'T'),("show-all",'A'),("help",'?'),("version",'?')]

def cat (c : Call) : ToolEnd :=
  withWords c.name "nbsETAvetu" "" copyWords c.args fun a =>
    let closing (e : ToolEnd) : ToolEnd :=
      if c.input.isNone && (paths a.operands).contains "-" then
        {e with
          writes := e.writes ++ [(2,c.name ++ ": closing standard input: " ++ OsError.badDescriptor.reason ++ "\n")]}
      else e
    if a.has '?' then {}
    else closing <|
      let s : CopyStyle :=
        {number := a.has 'n', numberFilled := a.has 'b', squeeze := a.has 's'
         ends := a.has 'E' || a.has 'A' || a.has 'e', tabs := a.has 'T' || a.has 'A' || a.has 't'
         visible := a.has 'v' || a.has 'A' || a.has 'e' || a.has 't'}
      if s.number || s.numberFilled || s.squeeze || s.ends || s.tabs || s.visible then
        let read := (paths a.operands).map fun path => (path,c.read path)
        let text := String.join (read.filterMap fun r => r.2.toOption)
        let errors := read.filterMap fun r => match r.2 with
          | .ok _ => none
          | .error e => some (2,c.name ++ ": " ++ Quoting.path r.1 ++ ": " ++ e.reason ++ "\n")
        {writes := errors ++ [(1,String.ofList (copyLines s 0 false (linesOf text)))]
         code := if errors.isEmpty then 0 else 1, unread := some ""}
      else c.each a.operands fun _ _ text => [(1,text)]

def tee (c : Call) : ToolEnd :=
  withArguments c.name "ai" "" c.args fun _ => {writes := [(1,c.input.getD "")], unread := some ""}

/-! ## Writing -/

def isEchoOption (s : String) : Bool :=
  match s.toList with
  | '-' :: c :: cs => (c :: cs).all fun c => c = 'n' || c = 'e' || c = 'E'
  | _ => false

/-- A text with its escapes read as the program echo reads them, and whether it ends there. -/
def unescapeEcho : Nat → List Char → List Char × Bool
  | 0, _ | _, [] => ([],false)
  | fuel + 1, '\\' :: cs =>
    let keep : List Char × Bool :=
      let more := unescapeEcho fuel cs
      ('\\' :: more.1,more.2)
    match cs with
    | [] => (['\\'],false)
    | c :: rest =>
      let hex := (rest.take 2).takeWhile fun d => (hexDigit? d).isSome
      if c = '"' || c = 'u' || c = 'U' || (c = 'x' && hex.isEmpty) then keep
      else
        match readEscape .program .argument cs with
        | .text s rest =>
          let more := unescapeEcho fuel rest
          (s ++ more.1,more.2)
        | _ => ([],true)
  | fuel + 1, c :: cs =>
    let more := unescapeEcho fuel cs
    (c :: more.1,more.2)

def echo (args : List String) : ToolEnd :=
  let letters := (args.takeWhile isEchoOption).flatMap fun s => s.toList.drop 1
  let cs := (Text.joinWith " " (args.dropWhile isEchoOption)).toList
  let (text,stops) :=
    if (letters.filter (· ≠ 'n')).getLast? = some 'e' then unescapeEcho (cs.length + 1) cs else (cs,false)
  .output (String.ofList (if stops || letters.contains 'n' then text else text ++ ['\n']))

def shellEcho (args : List String) : ToolEnd :=
  let bare := args.head? = some "-n"
  let cs := (Text.joinWith " " (if bare then args.drop 1 else args)).toList
  let (text,stops) := unescape .shell (cs.length + 1) cs
  .output (String.ofList (if stops || bare then text else text ++ ['\n']))

def seq (c : Call) : ToolEnd :=
  let isNumber (s : String) : Bool := match s.toList with
    | '-' :: c :: _ => c.isDigit || c = '.'
    | _ => false
  let operands := c.args.dropWhile fun s => s.toList.head? = some '-' && !isNumber s && s ≠ "-s"
  let (separator,operands) := match c.args with
    | "-s" :: separator :: rest => (separator,rest)
    | first :: rest =>
      if Text.startsWith first "-s" then (String.ofList (first.toList.drop 2),rest) else ("\n",operands)
    | [] => ("\n",operands)
  let read (s : String) : Option Int := integer? true s
  let write (first step last : Int) : ToolEnd :=
    let count := if step = 0 then 0 else if step > 0 then ((last - first).fdiv step + 1).toNat
      else ((first - last).fdiv (-step) + 1).toNat
    let texts := (List.range count).map fun (i : Nat) => (first + step * i)
    let width := if c.args.contains "-w" then
        max (toString first).length (toString last).length else 0
    let text (n : Int) : String :=
      let digits := (toString n.natAbs).toList
      let sign := if n < 0 then ['-'] else []
      String.ofList (sign ++ List.replicate (width - sign.length - digits.length) '0' ++ digits)
    .output (if texts.isEmpty then "" else Text.joinWith separator (texts.map text) ++ "\n")
  match operands with
  | [] => misuse c.name "missing operand" 1
  | _ :: _ :: _ :: extra :: _ => misuse c.name ("extra operand " ++ Quoting.shown extra) 1
  | operands =>
    match operands.find? fun s => (read s).isNone with
    | some bad => misuse c.name ("invalid floating point argument: " ++ Quoting.shown bad) 1
    | none =>
      match operands.filterMap read with
      | [last] => write 1 1 last
      | [first,last] => write first 1 last
      | [first,step,last] => write first step last
      | _ => {}

/-! ## Cutting and counting -/

def ends (isHead : Bool) (c : Call) (cut : Bool → Bool → Nat → String → String) : ToolEnd :=
  let args := match c.args with
    | first :: rest =>
      match first.toList with
      | '-' :: d :: ds => if (d :: ds).all Char.isDigit then "-n" :: String.ofList (d :: ds) :: rest else c.args
      | _ => c.args
    | [] => []
  withArguments c.name "qv" "nc" args fun a =>
    let letter := if (a.options.filter fun o => o.1 = 'n' || o.1 = 'c').getLast?.any (·.1 = 'c') then 'c' else 'n'
    let wanted := (a.last? letter).getD "10"
    let signed := wanted.toList.head? = some '-' || wanted.toList.head? = some '+'
    let digits := if signed then wanted.toList.drop 1 else wanted.toList
    if digits.isEmpty || !digits.all Char.isDigit then
      .failure (c.name ++ ": invalid number of " ++ (if letter = 'c' then "bytes" else "lines") ++ ": " ++
        Quoting.shown wanted ++ "\n") 1
    else
      let other := wanted.toList.head? = some (if isHead then '-' else '+')
      c.each a.operands fun i path text =>
        let title := if a.operands.length > 1 then
            (if i = 0 then "" else "\n") ++ "==> " ++ (if path = "-" then "standard input" else path) ++ " <==\n"
          else ""
        [(1,title ++ cut (letter = 'c') other (digitsValue 10 digits) text)]

def head (c : Call) : ToolEnd :=
  ends true c fun characters other n text =>
    if characters then String.ofList (text.toList.take (if other then text.length - n else n))
    else
      let lines := linesOf text
      String.ofList (lines.take (if other then lines.length - n else n)).flatten

def tail (c : Call) : ToolEnd :=
  ends false c fun characters other n text =>
    if characters then String.ofList (text.toList.drop (if other then n - 1 else text.length - n))
    else
      let lines := linesOf text
      String.ofList (lines.drop (if other then n - 1 else lines.length - n)).flatten

def wc (c : Call) : ToolEnd :=
  withArguments c.name "lwcm" "" c.args fun a =>
    let all := a.options.isEmpty
    let counts (text : String) : List Nat :=
      let cs := text.toList
      let words := cs.foldl (fun (acc : Nat × Bool) c =>
        if isSpace c then (acc.1,false) else (if acc.2 then acc.1 else acc.1 + 1,true)) (0,false)
      (if all || a.has 'l' then [cs.count '\n'] else []) ++ (if all || a.has 'w' then [words.1] else []) ++
        (if a.has 'm' then [cs.length] else []) ++ (if all || a.has 'c' then [cs.length] else [])
    let read := (paths a.operands).map fun path => (path,c.read path)
    let results := read.map fun r => (r.1,r.2.map counts)
    let whole := (read.filterMap fun r => r.2.toOption).foldl (fun n s => n + s.length) 0
    let several := a.operands.length > 1
    let single := (counts "").length = 1 && !several
    let width := if single then 1 else if a.operands.isEmpty || a.operands.contains "-" then 7
      else (toString whole).length
    let line (ns : List Nat) (name : String) : String :=
      Text.joinWith " " (ns.map fun n =>
        let digits := (toString n).toList
        String.ofList (List.replicate (width - digits.length) ' ' ++ digits)) ++
        (if name.isEmpty then "" else " " ++ name) ++ "\n"
    let total := (results.filterMap fun r => r.2.toOption).foldl (fun acc ns => List.zipWith (· + ·) acc ns)
      ((counts "").map fun _ => 0)
    let writes := results.map fun r => match r.2 with
      | .ok ns => (1,line ns (if a.operands.isEmpty then "" else r.1))
      | .error e => (2,c.name ++ ": " ++ Quoting.path r.1 ++ ": " ++ e.reason ++ "\n")
    {writes := writes ++ (if several then [(1,line total "total")] else [])
     code := if results.all fun r => r.2.isOk then 0 else 1, unread := some ""}

def ranges? (s : String) : Option (List (Nat × Option Nat)) :=
  (Text.splitOn ',' s).mapM fun part =>
    match Text.splitOn '-' part with
    | [n] => n.toNat?.map fun n => (n,some n)
    | [low,high] =>
      if low.isEmpty && high.isEmpty then none
      else
        match if low.isEmpty then some 1 else low.toNat?, if high.isEmpty then some 0 else high.toNat? with
        | some low, some n => some (low,if high.isEmpty then none else some n)
        | _, _ => none
    | _ => none

def cut (c : Call) : ToolEnd :=
  withArguments c.name "sn" "dfcb" c.args fun a =>
    let delimiter := (((a.last? 'd').getD "\t").toList.head?).getD '\t'
    let fields := a.has 'f'
    match (((a.last? 'f').or (a.last? 'c')).or (a.last? 'b')).bind ranges? with
    | none => misuse c.name "you must specify a list of bytes, characters, or fields" 1
    | some ranges =>
      let wanted (i : Nat) : Bool := ranges.any fun r => r.1 ≤ i && r.2.all (i ≤ ·)
      let line (cs : List Char) : List Char :=
        if fields then
          if !cs.contains delimiter then (if a.has 's' then [] else cs ++ ['\n'])
          else
            let pieces := (Text.splitWhen (· = delimiter) cs).zipIdx.filter fun p => wanted (p.2 + 1)
            List.intercalate [delimiter] (pieces.map (·.1)) ++ ['\n']
        else (cs.zipIdx.filter fun p => wanted (p.2 + 1)).map (·.1) ++ ['\n']
      c.each a.operands fun _ _ text =>
        [(1,String.ofList ((linesOf text).flatMap fun l => line (withoutEnd l)))]

/-- The characters of a set: ranges, classes and escapes. `fuel` bounds them. -/
def expandSet : Nat → List Char → List Char
  | 0, _ | _, [] => []
  | fuel + 1, '[' :: ':' :: rest =>
    let name := String.ofList (rest.takeWhile Char.isAlpha)
    match rest.drop name.length with
    | ':' :: ']' :: after =>
      ((List.range 256).map Char.ofNat).filter (Glob.inClass name) ++ expandSet fuel after
    | _ => '[' :: expandSet fuel (':' :: rest)
  | fuel + 1, '\\' :: rest =>
    match readEscape .program .format rest with
    | .text s after =>
      let s := if s.head? = some '\\' && s.length = 2 then s.drop 1 else s
      s ++ expandSet fuel after
    | _ => '\\' :: expandSet fuel rest
  | fuel + 1, low :: '-' :: high :: rest =>
    if low ≤ high then
      (List.range (high.toNat - low.toNat + 1)).map (fun i => octet (low.toNat + i)) ++ expandSet fuel rest
    else low :: expandSet fuel ('-' :: high :: rest)
  | fuel + 1, c :: rest => c :: expandSet fuel rest

def squeeze (wanted : Char → Bool) : List Char → List Char
  | c :: d :: rest => if c = d && wanted c then squeeze wanted (d :: rest) else c :: squeeze wanted (d :: rest)
  | cs => cs

def tr (c : Call) : ToolEnd :=
  withArguments c.name "cCdst" "" c.args fun a =>
    let set (s : String) : List Char := expandSet (s.length + 1) s.toList
    let input := (c.input.getD "").toList
    let write (cs : List Char) : ToolEnd := {writes := [(1,String.ofList cs)], unread := some ""}
    let complement := a.has 'c' || a.has 'C'
    match a.operands with
    | [] => misuse c.name "missing operand" 1
    | first :: more =>
      let source := if complement then
          ((List.range 256).map Char.ofNat).filter fun c => !(set first).contains c
        else set first
      match more with
      | [] =>
        if a.has 'd' then write (input.filter fun c => !source.contains c)
        else if a.has 's' then write (squeeze source.contains input)
        else
          misuse c.name ("missing operand after " ++ Quoting.shown first ++
            "\nTwo strings must be given when translating.") 1
      | second :: _ =>
        let target := set second
        let deleted := if a.has 'd' then input.filter fun c => !source.contains c else input
        let translate (c : Char) : Char :=
          match source.reverse.findIdx? (· = c) with
          | some i => (target[source.length - 1 - i]?).getD ((target.getLast?).getD c)
          | none => c
        let translated := if a.has 'd' then deleted else input.map translate
        write (if a.has 's' then squeeze target.contains translated else translated)

/-! ## Ordering -/

def leading (line : List Char) : Int :=
  let cs := line.dropWhile isSpace
  let digits (cs : List Char) : Int := digitsValue 10 (cs.takeWhile Char.isDigit)
  match cs with
  | '-' :: rest => -(digits rest)
  | cs => digits cs

def sort (c : Call) : ToolEnd :=
  withArguments c.name "rnu" "" c.args fun a =>
    let read := (paths a.operands).map fun path => (path,c.read path)
    match read.find? fun r => !r.2.isOk with
    | some (path,.error e) => .failure (c.name ++ ": cannot read: " ++ Quoting.path path ++ ": " ++ e.reason ++ "\n") 2
    | _ =>
      let lines := (read.filterMap fun r => r.2.toOption).flatMap fun s => (linesOf s).map withoutEnd
      let text (l : List Char) : String := String.ofList l
      let before (x y : List Char) : Bool :=
        if a.has 'n' && leading x ≠ leading y then
          if a.has 'r' then decide (leading x > leading y) else decide (leading x < leading y)
        else if a.has 'n' && a.has 'u' then true
        else if a.has 'r' then decide (text y ≤ text x) else decide (text x ≤ text y)
      let same (x y : List Char) : Bool := if a.has 'n' then leading x = leading y else x = y
      let sorted := lines.mergeSort before
      let kept := if a.has 'u' then
          sorted.foldl (fun acc l => if acc.head?.any (same · l) then acc else l :: acc) [] |>.reverse
        else sorted
      {writes := [(1,String.ofList (kept.flatMap (· ++ ['\n'])))], unread := some ""}

def uniq (c : Call) : ToolEnd :=
  withArguments c.name "cdu" "" c.args fun a =>
    c.each a.operands fun _ _ text =>
      let groups := (linesOf text).map withoutEnd |>.foldl (fun (acc : List (List Char × Nat)) l =>
        match acc with
        | (m,n) :: rest => if m = l then (m,n + 1) :: rest else (l,1) :: acc
        | [] => [(l,1)]) [] |>.reverse
      let kept := groups.filter fun g => (!a.has 'd' || g.2 > 1) && (!a.has 'u' || g.2 = 1)
      let line (g : List Char × Nat) : List Char :=
        (if a.has 'c' then
          let digits := Nat.toDigits 10 g.2
          List.replicate (7 - digits.length) ' ' ++ digits ++ [' ']
        else []) ++ g.1 ++ ['\n']
      [(1,String.ofList (kept.flatMap line))]

/-! ## Paths and time -/

def stripSlashes (cs : List Char) : List Char := (cs.reverse.dropWhile (· = '/')).reverse

def basename (c : Call) : ToolEnd :=
  match if c.args.head? = some "--" then c.args.drop 1 else c.args with
  | [] => misuse c.name "missing operand" 1
  | _ :: _ :: extra :: _ => misuse c.name ("extra operand " ++ Quoting.shown extra) 1
  | path :: ending =>
    let name := ((stripSlashes path.toList).reverse.takeWhile (· ≠ '/')).reverse
    let name := if name.isEmpty && !path.isEmpty then ['/'] else name
    let ending := ((ending.head?).getD "").toList
    let cut := !ending.isEmpty && ending ≠ name && ending.reverse.isPrefixOf name.reverse
    .output (String.ofList (if cut then name.take (name.length - ending.length) else name) ++ "\n")

def dirname (c : Call) : ToolEnd :=
  match if c.args.head? = some "--" then c.args.drop 1 else c.args with
  | [] => misuse c.name "missing operand" 1
  | paths =>
    .output (String.join (paths.map fun path =>
      let above := (stripSlashes path.toList).reverse.dropWhile (· ≠ '/')
      let dir := stripSlashes above.reverse
      let dir := if !dir.isEmpty then dir else if above.isEmpty && path.toList.head? ≠ some '/' then ['.'] else ['/']
      String.ofList dir ++ "\n"))

def duration? (arg : String) : Option Nat :=
  let r := Real.read .extended arg.toList
  let unit := match r.rest with
    | [] | ['s'] => some 1
    | ['m'] => some 60
    | ['h'] => some 3600
    | ['d'] => some 86400
    | _ => none
  match r.found, r.value, unit with
  | true, .exact negative num den, some unit => if negative && num ≠ 0 then none else some (num * unit * 1000 / den)
  | true, .infinite false, some _ => some (Nat.pow 10 12)
  | _, _, _ => none

def sleep (c : Call) : ToolEnd :=
  match c.args with
  | [] => misuse c.name "missing operand" 1
  | args =>
    match args.find? fun arg => (duration? arg).isNone with
    | some bad =>
      match bad.toList with
      | '-' :: '-' :: _ => misuse c.name (Misuse.unknownWord bad).text 1
      | '-' :: letter :: _ => misuse c.name (Misuse.unknown letter).text 1
      | _ => misuse c.name ("invalid time interval " ++ Quoting.shown bad) 1
    | none => {takes := (args.filterMap duration?).foldl (· + ·) 0}

/-! ## Tests -/

def holds (files : FileTree) (letter : Char) (path : String) : Bool :=
  let path := toText path
  let isLink : Bool := match files.goal (fun _ => false) path with
    | .ok goal => (match files.node? goal.location with
      | some (.link _) => true
      | _ => false)
    | .error _ => false
  if letter = 'h' || letter = 'L' then isLink
  else
    match files.look path with
    | .error _ => false
    | .ok (_,.dir) => "edrwxsOG".contains letter
    | .ok (_,.file bytes executable) =>
      "efrwOG".contains letter || (letter = 'x' && executable) || (letter = 's' && !bytes.isEmpty)
    | .ok (_,.device _) => "erwcOG".contains letter
    | .ok (_,.link _) => false

def test (c : Call) : ToolEnd :=
  match Test.run (holds c.files) (if c.name.toList.getLast? = some '[' then "[" else "test") c.args with
  | .ok answer => {code := if answer then 0 else 1}
  | .error e =>
    .failure (c.name ++ ": " ++ (match e with
      | .missingBracket => "missing ']'"
      | .illegalNumber text => "invalid integer " ++ Quoting.shown text
      | e => e.message) ++ "\n") 2

def program? (name : String) : Option (Call → ToolEnd) :=
  match name with
  | "true" => some fun _ => {}
  | "false" => some fun _ => {code := 1}
  | "echo" => some fun c => echo c.args
  | "printf" => some fun c => programPrintf c.name c.args
  | "cat" => some cat
  | "tee" => some tee
  | "seq" => some seq
  | "head" => some head
  | "tail" => some tail
  | "wc" => some wc
  | "cut" => some cut
  | "tr" => some tr
  | "sort" => some sort
  | "uniq" => some uniq
  | "basename" => some basename
  | "dirname" => some dirname
  | "sleep" => some sleep
  | "test" | "[" => some test
  | _ => none

def names : List String :=
  ["[","basename","bash","cat","cut","dash","dirname","echo","env","false","head","printf","seq","sh",
    "sleep","sort","tail","tee","test","tr","true","uniq","wc"]

end Hostkeeper.Shell.Tools
