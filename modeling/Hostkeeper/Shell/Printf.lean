import Hostkeeper.Shell.Quoting
import Hostkeeper.Shell.Real

/-! Writing by a format. The format is used again as long as arguments are left and it takes some. The shell's own
command and the program of the same name differ in their escapes, their messages and the precision of numbers. -/
namespace Hostkeeper.Shell

inductive Dialect where
  | shell
  | program
  deriving DecidableEq

def Dialect.precision : Dialect → Real.Precision
  | .shell => .double
  | .program => .extended

/-- What a tool writes to which descriptor, in order, and how it ends. -/
structure ToolEnd where
  writes : List (Nat × String) := []
  code : Nat := 0
  takes : Nat := 0
  unread : Option String := none

def ToolEnd.output (s : String) : ToolEnd := {writes := [(1,s)]}

def ToolEnd.failure (message : String) (code : Nat) : ToolEnd := {writes := [(2,message)], code}

def addWrite (descriptor : Nat) (s : String) : List (Nat × String) → List (Nat × String)
  | [] => [(descriptor,s)]
  | [(d,t)] => if d = descriptor then [(d,t ++ s)] else [(d,t),(descriptor,s)]
  | w :: ws => w :: addWrite descriptor s ws

def escapedLetter? : Char → Option Char
  | 'a' => some '\x07'
  | 'b' => some '\x08'
  | 'e' => some '\x1b'
  | 'f' => some '\x0c'
  | 'n' => some '\n'
  | 'r' => some '\r'
  | 't' => some '\t'
  | 'v' => some '\x0b'
  | '\\' => some '\\'
  | _ => none

def octet (n : Nat) : Char := Char.ofNat (n % 256)

inductive EscapePlace where
  | format
  | argument
  deriving DecidableEq

/-- What an escape stands for: a text, the end of all output, or a mistake in it. -/
inductive Escaped where
  | text (s : List Char) (rest : List Char)
  | stop
  | missingDigits

def octal (count : Nat) (cs : List Char) : List Char := (cs.take count).takeWhile isOctal

def readEscape (dialect : Dialect) (place : EscapePlace) (cs : List Char) : Escaped :=
  match cs with
  | [] => .text ['\\'] []
  | c :: rest =>
    if c = 'c' && (place = .argument || dialect = .program) then .stop
    else if c = '0' && place = .argument then
      let digits := octal 3 rest
      .text [octet (digitsValue 8 digits)] (rest.drop digits.length)
    else if isOctal c then
      let digits := octal 3 (c :: rest)
      .text [octet (digitsValue 8 digits)] ((c :: rest).drop digits.length)
    else
      match escapedLetter? c with
      | some d => .text [d] rest
      | none =>
        if dialect = .program && c = '"' then .text ['"'] rest
        else if dialect = .program && c = 'x' then
          let digits := (rest.take 2).takeWhile fun d => (hexDigit? d).isSome
          if digits.isEmpty then .missingDigits
          else .text [octet (digitsValue 16 digits)] (rest.drop digits.length)
        else if dialect = .program && (c = 'u' || c = 'U') then
          let count := if c = 'u' then 4 else 8
          let digits := (rest.take count).takeWhile fun d => (hexDigit? d).isSome
          if digits.length < count then .missingDigits
          else
            let code := digitsValue 16 digits
            if code < 128 then .text [octet code] (rest.drop count)
            else .text ('\\' :: (if code < 65536 then 'u' else 'U') :: digits.map Char.toUpper) (rest.drop count)
        else .text ['\\',c] rest

def unescape (dialect : Dialect) : Nat → List Char → List Char × Bool
  | 0, _ | _, [] => ([],false)
  | fuel + 1, '\\' :: cs =>
    match readEscape dialect .argument cs with
    | .text s rest =>
      let more := unescape dialect fuel rest
      (s ++ more.1,more.2)
    | .stop => ([],true)
    | .missingDigits => ([],true)
  | fuel + 1, c :: cs =>
    let more := unescape dialect fuel cs
    (c :: more.1,more.2)

structure Layout where
  left : Bool := false
  plus : Bool := false
  blank : Bool := false
  alternate : Bool := false
  zeros : Bool := false
  width : Nat := 0
  precision : Option Nat := none

def Layout.fill (l : Layout) (cs : List Char) : List Char :=
  let blanks := List.replicate (l.width - cs.length) ' '
  if l.left then cs ++ blanks else blanks ++ cs

def Layout.fillNumber (l : Layout) (zeros : Bool) (sign digits : List Char) : List Char :=
  if l.zeros && zeros && !l.left then
    sign ++ List.replicate (l.width - sign.length - digits.length) '0' ++ digits
  else l.fill (sign ++ digits)

def Layout.sign (l : Layout) (negative : Bool) : List Char :=
  if negative then ['-'] else if l.plus then ['+'] else if l.blank then [' '] else []

/-- The digits of a whole number, none of zero if none are asked for. -/
def Layout.digits (l : Layout) (base n : Nat) : List Char :=
  match l.precision with
  | none => Nat.toDigits base n
  | some count => if count = 0 && n = 0 then [] else
      List.replicate (count - (Nat.toDigits base n).length) '0' ++ Nat.toDigits base n

def Layout.integer (l : Layout) (letter : Char) (n : Int) : List Char :=
  let zeros := l.precision.isNone
  let unsigned := (n % (UInt64.size : Int)).toNat
  match letter with
  | 'u' => l.fillNumber zeros [] (l.digits 10 unsigned)
  | 'o' =>
    let digits := l.digits 8 unsigned
    l.fillNumber zeros [] (if l.alternate && digits.head? ≠ some '0' then '0' :: digits else digits)
  | 'x' | 'X' =>
    let digits := l.digits 16 unsigned
    let cased := if letter = 'X' then digits.map Char.toUpper else digits
    l.fillNumber zeros (if l.alternate && unsigned ≠ 0 then ['0',letter] else []) cased
  | _ => l.fillNumber zeros (l.sign (n < 0)) (l.digits 10 n.natAbs)

def Layout.real (l : Layout) (p : Real.Precision) (letter : Char) (x : Real) : List Char :=
  let (negative,cs) := x.text p letter l.precision l.alternate
  let base := if x.isFinite && letter.toLower = 'a' then ['0',if letter.isUpper then 'X' else 'x'] else []
  l.fillNumber x.isFinite (l.sign negative ++ base) cs

namespace Printf

structure State where
  args : List String
  writes : List (Nat × String) := []
  code : Nat := 0
  stopped : Bool := false
  took : Bool := false

structure Setting where
  dialect : Dialect
  opening : String

def State.put (st : State) (cs : List Char) : State :=
  if cs.isEmpty then st else {st with writes := addWrite 1 (String.ofList cs) st.writes}

def State.warn (st : State) (s : Setting) (message : String) : State :=
  {st with writes := addWrite 2 (s.opening ++ message ++ "\n") st.writes, code := 1}

def State.abort (st : State) (s : Setting) (message : String) : State :=
  {st.warn s message with stopped := true, code := if s.dialect = .shell then 2 else 1}

def State.next (st : State) : Option String × State :=
  match st.args with
  | [] => (none,st)
  | arg :: args => (some arg,{st with args, took := true})

def State.check (st : State) (s : Setting) (arg : String) (found outOfRange : Bool) (rest : List Char) : State :=
  let name := if s.dialect = .program then Quoting.shown arg else arg
  if outOfRange && (rest.isEmpty || s.dialect = .program) then
    st.warn s (name ++ ": Numerical result out of range")
  else if rest.isEmpty then st
  else if !found then
    st.warn s (name ++ (if s.dialect = .program then ": expected a numeric value" else ": expected numeric value"))
  else
    st.warn s (name ++
      (if s.dialect = .program then ": value not completely converted" else ": not completely converted"))

def quoted? (s : Setting) (arg : String) (st : State) : Option (Nat × State) :=
  match arg.toList with
  | q :: rest =>
    if q = '"' || q = '\'' then
      match rest with
      | [] => if s.dialect = .program then none else some (0,st)
      | c :: more =>
        some (c.toNat,if more.isEmpty || s.dialect = .shell then st else
          {st with writes := addWrite 2 (s.opening ++ "warning: " ++ String.ofList more ++
            ": character(s) following character constant have been ignored\n") st.writes})
    else none
  | [] => none

def State.takeInteger (st : State) (s : Setting) (signed : Bool) : Int × State :=
  match st.next with
  | (none,st) => (0,st)
  | (some arg,st) =>
    match quoted? s arg st with
    | some (n,st) => (n,st)
    | none =>
      let n := readNumeral false arg.toList
      let fits := if signed then n.fits else n.value.natAbs < UInt64.size
      let value := if signed then n.clamped else if fits then n.value else -1
      (value,st.check s arg n.found (!fits) n.rest)

def State.takeReal (st : State) (s : Setting) : Real × State :=
  match st.next with
  | (none,st) => (.exact false 0 1,st)
  | (some arg,st) =>
    match quoted? s arg st with
    | some (n,st) => (.exact false n 1,st)
    | none =>
      let r := Real.read s.dialect.precision arg.toList
      (r.value,st.check s arg r.found r.outOfRange r.rest)

def addFlag (l : Layout) (c : Char) : Layout :=
  match c with
  | '-' => {l with left := true}
  | '+' => {l with plus := true}
  | ' ' => {l with blank := true}
  | '#' => {l with alternate := true}
  | '0' => {l with zeros := true}
  | _ => l

def refused (c : Char) : List Char :=
  match c with
  | '\'' | 'I' => "aAceEosxX".toList
  | '#' => "cdisu".toList
  | '0' => "cs".toList
  | _ => []

def State.convert (st : State) (s : Setting) (letter : Char) (l : Layout) : State :=
  match letter with
  | 'd' | 'i' =>
    let (n,st) := st.takeInteger s true
    st.put (l.integer letter n)
  | 'o' | 'u' | 'x' | 'X' =>
    let (n,st) := st.takeInteger s false
    st.put (l.integer letter n)
  | 'c' =>
    let (arg,st) := st.next
    st.put (l.fill [((arg.getD "").toList.head?).getD '\x00'])
  | 's' =>
    let (arg,st) := st.next
    let cs := (arg.getD "").toList
    st.put (l.fill ((l.precision.map cs.take).getD cs))
  | 'b' =>
    let (arg,st) := st.next
    let cs := (arg.getD "").toList
    let (text,stops) := unescape s.dialect (cs.length + 1) cs
    {st.put (l.fill ((l.precision.map text.take).getD text)) with
     stopped := stops, code := if stops && s.dialect = .program then 0 else st.code}
  | 'q' =>
    let (arg,st) := st.next
    st.put ((arg.map fun arg => (Quoting.forShell false arg).toList).getD [])
  | _ =>
    let (x,st) := st.takeReal s
    st.put (l.real s.dialect.precision letter x)

/-- Reads a width or a precision: digits, or an argument behind a star, which has 32 bits. `name` is what the
program calls it; `least` bounds what it may be. -/
def State.measure (st : State) (s : Setting) (name : String) (least : Int) (cs : List Char) :
    Option Int × State × List Char :=
  match cs with
  | '*' :: rest =>
    let arg := (st.args.head?).getD ""
    let (n,st) := st.takeInteger s true
    let limit : Int := (UInt32.size / 2 : Nat)
    match s.dialect with
    | .shell => (some (n.bmod UInt32.size),st,rest)
    | .program =>
      if n ≥ limit || n < least then (none,st.abort s ("invalid " ++ name ++ ": " ++ Quoting.shown arg),rest)
      else (some n,st,rest)
  | cs =>
    let digits := cs.takeWhile Char.isDigit
    (if digits.isEmpty then none else some (digitsValue 10 digits : Nat),st,cs.dropWhile Char.isDigit)

def State.directive (st : State) (s : Setting) (cs : List Char) : State × List Char :=
  match cs with
  | '%' :: rest => (st.put ['%'],rest)
  | cs =>
    let isFlag (c : Char) : Bool := "-+ #0".contains c || (s.dialect = .program && (c = '\'' || c = 'I'))
    let flags := cs.takeWhile isFlag
    let (width,st,rest) := st.measure s "field width" (-(UInt32.size / 2 : Nat)) (cs.dropWhile isFlag)
    let (precision,st,rest) : Option Int × State × List Char := match rest with
      | '.' :: rest =>
        let (n,st,rest) := if st.stopped then (none,st,rest) else st.measure s "precision" least rest
        (some (n.getD 0),st,rest)
      | rest => (none,st,rest)
    let rest := if s.dialect = .program then rest.dropWhile ("lLhjtz".contains ·) else rest
    let layout := flags.foldl addFlag
      {left := width.any (· < 0), width := (width.map Int.natAbs).getD 0
       precision := precision.bind fun n => if n < 0 then none else some n.toNat}
    match if st.stopped then none else some rest with
    | none => (st,[])
    | some [] =>
      (st.abort s (match s.dialect with
        | .shell => "missing format character"
        | .program => "%" ++ String.ofList cs ++ ": invalid conversion specification"),[])
    | some (letter :: rest) =>
      let text := "%" ++ String.ofList (cs.take (cs.length - rest.length))
      let known := match s.dialect with
        | .shell => "bcsdiouxXaAeEfFgG".contains letter
        | .program =>
          if letter = 'b' || letter = 'q' then cs.head? = some letter
          else "csdiouxXaAeEfFgG".contains letter && !(flags.any fun c => (refused c).contains letter) &&
            !(letter = 'c' && precision.isSome)
      if known then (st.convert s letter layout,rest)
      else
        (st.abort s (text ++ match s.dialect with
          | .shell => ": invalid directive"
          | .program => ": invalid conversion specification"),[])

def State.round (s : Setting) : Nat → List Char → State → State
  | 0, _, st | _, [], st => st
  | fuel + 1, c :: rest, st =>
    if st.stopped then st
    else if c = '%' then
      let (st,rest) := st.directive s rest
      round s fuel rest st
    else if c = '\\' then
      match readEscape s.dialect .format rest with
      | .text cs rest => round s fuel rest (st.put cs)
      | .stop => {st with stopped := true, code := if s.dialect = .program then 0 else st.code}
      | .missingDigits => st.abort s "missing hexadecimal number in escape"
    else round s fuel rest (st.put [c])

/-- Writes rounds as long as they take arguments; `fuel` bounds them. -/
def State.rounds (s : Setting) (format : List Char) : Nat → State → State
  | 0, st => st
  | fuel + 1, st =>
    let st := State.round s (format.length + 1) format {st with took := false}
    if st.stopped || st.args.isEmpty || !st.took then st else rounds s format fuel st

def run (s : Setting) (format : String) (args : List String) : ToolEnd :=
  let st := State.rounds s format.toList (args.length + 1) {args}
  match s.dialect with
  | .program =>
    let writes := match st.stopped, st.args with
      | false, arg :: _ =>
        addWrite 2
          (s.opening ++ "warning: ignoring excess arguments, starting with " ++ Quoting.shown arg ++ "\n") st.writes
      | _, _ => st.writes
    {writes, code := st.code}
  | .shell =>
    -- The shell's output is held back until the command ends.
    {writes := st.writes.filter (·.1 = 2) ++ st.writes.filter (·.1 = 1), code := st.code}

end Printf

def shellPrintf (opening : String) (args : List String) : ToolEnd :=
  match args with
  | "--" :: format :: args => Printf.run ⟨.shell,opening⟩ format args
  | [] | ["--"] => .failure (opening ++ "usage: printf format [arg ...]\n") 2
  | format :: args =>
    match format.toList with
    | '-' :: c :: _ => .failure (opening ++ "Illegal option -" ++ String.ofList [c] ++ "\n") 2
    | _ => Printf.run ⟨.shell,opening⟩ format args

def programPrintf (name : String) (args : List String) : ToolEnd :=
  match if args.head? = some "--" then args.drop 1 else args with
  | [] => .failure (name ++ ": missing operand\nTry '" ++ name ++ " --help' for more information.\n") 1
  | format :: args => Printf.run ⟨.program,name ++ ": "⟩ format args

end Hostkeeper.Shell
