import Hostkeeper.KeyMap
import Hostkeeper.Shell.Script

/-! Reading shell scripts, one complete line at a time. A word is cut at blanks and operators outside quotes and
expansions; a here document is read at the end of the line that asks for it. `fuel` bounds the characters and
the nesting. -/
namespace Hostkeeper.Shell

inductive Token where
  | word (word : Word)
  | mark (text : String)
  | lineEnd
  | fileEnd
  | redirect (descriptor : Nat) (kind : RedirectKind)
  | here (descriptor : Nat) (stripTabs : Bool)

def Token.name : Token → String
  | .word _ => "word"
  | .mark text => "\"" ++ text ++ "\""
  | .lineEnd => "newline"
  | .fileEnd => "end of file"
  | .redirect .. | .here .. => "redirection"

inductive ScriptFault where
  | unexpected (token : Token) (wanted : Option Token)
  | openQuote
  | openBackquote
  | openBrace
  | openSum
  | loopVariable
  | functionName

def ScriptFault.message : ScriptFault → String
  | .unexpected token none => token.name ++ " unexpected"
  | .unexpected token (some wanted) => token.name ++ " unexpected (expecting " ++ wanted.name ++ ")"
  | .openQuote => "Unterminated quoted string"
  | .openBackquote => "EOF in backquote substitution"
  | .openBrace => "Missing '\x7d'"
  | .openSum => "Missing '))'"
  | .loopVariable => "Bad for loop variable"
  | .functionName => "Bad function name"

structure ScriptError where
  line : Nat
  fault : ScriptFault

structure Pending where
  index : Nat
  delimiter : List Char
  expands : Bool
  stripTabs : Bool

structure Cursor where
  rest : List Char
  line : Nat := 1
  held : Option Token := none
  pending : List Pending := []
  /-- The here documents read so far, under their numbers. -/
  bodies : List (Nat × Word) := []
  next : Nat := 0
  /-- Words that stand for other texts where a command is looked for. -/
  aliases : KeyMap String := .empty
  /-- The words replaced of late, with how much there was to read behind each. -/
  replaced : List (String × Nat) := []

inductive Role where
  | plain
  | command
  | language
  | keyword
  deriving DecidableEq

abbrev Reader := StateT Cursor (Except ScriptError)

namespace Reader

def fail {α : Type} (fault : ScriptFault) : Reader α := do
  let c ← get
  throw ⟨c.line,fault⟩

def unexpected {α : Type} (token : Token) (wanted : Option Token) : Reader α := fail (.unexpected token wanted)

/-- Takes off line ends behind a backslash; counts them. -/
def dropJoins : Nat → List Char → Nat × List Char
  | count, '\\' :: '\n' :: rest => dropJoins (count + 1) rest
  | count, cs => (count,cs)

def peek : Reader (Option Char) := do
  let c ← get
  let (count,rest) := dropJoins 0 c.rest
  set {c with rest, line := c.line + count}
  return rest.head?

def take : Reader (Option Char) := do
  let c ← get
  match c.rest with
  | [] => return none
  | x :: rest =>
    set {c with rest, line := if x = '\n' then c.line + 1 else c.line}
    return some x

def skip : Reader Unit := do
  let _ ← take

def takeWhile (keep : Char → Bool) : Nat → Reader (List Char)
  | 0 => return []
  | fuel + 1 => do
    match ← peek with
    | some x =>
      if keep x then do
        skip
        return x :: (← takeWhile keep fuel)
      else return []
    | none => return []

def accept (wanted : Char) : Reader Bool := do
  if (← peek) = some wanted then
    skip
    return true
  else return false

def isSpecial (c : Char) : Bool := c.isDigit || "!#$*-?@".contains c

def endsWord (c : Char) : Bool := " \t\n;&|()<>".contains c

def keywords : List String :=
  ["!","case","do","done","elif","else","esac","fi","for","if","in","then","until","while","\x7b",
    "\x7d"]

def endsList : Token → Bool
  | .fileEnd => true
  | .mark text => [")",";;","do","done","elif","else","esac","fi","then","\x7d"].contains text
  | _ => false

def reserved : List String :=
  [".",":","break","continue","eval","exec","exit","export","local","readonly","return","set","shift",
    "times","trap","unset"]

def hold (token : Token) : Reader Unit := modify fun c => {c with held := some token}

/-- Replaces a word that was just read by the text that it stands for, unless it comes out of that text; tells
whether it did. The word behind a text with a blank at its end may stand for another text as well: `before` is
how much there was to read before the word. -/
def replaceAlias (role : Role) (before : Nat) (word : String) : Reader Bool := do
  let c ← get
  let left := c.rest.length
  let endsInBlank (name : String) : Bool :=
    ((c.aliases.get? name).bind (·.toList.getLast?)).any fun c => c = ' ' || c = '\t'
  let follows := c.replaced.any fun r => r.2 ≤ before && left < r.2 && endsInBlank r.1
  let replaced := c.replaced.filter (·.2 ≤ left)
  if (role = .command || role = .language || follows) && !replaced.any (·.1 = word) then
    match c.aliases.get? word with
    | some text => do
      set {c with rest := text.toList ++ c.rest, replaced := (word,left) :: replaced}
      return true
    | none => return false
  else return false

structure Context where
  double : Bool := false
  brace : Bool := false
  here : Bool := false

/-- The lines of a here document up to its delimiter, and the number of line ends taken, with one for the
delimiter. A line end behind a
backslash joins two lines if the text is expanded. -/
def takeBody (p : Pending) : Nat → Bool → List Char → List Char × Nat × List Char
  | 0, _, cs => (cs,0,[])
  | fuel + 1, joined, cs =>
    if cs.isEmpty then ([],0,[])
    else
      let cs := if p.stripTabs && !joined then cs.dropWhile (· = '\t') else cs
      let line := cs.takeWhile (· ≠ '\n')
      let rest := cs.drop (line.length + 1)
      if !joined && line = p.delimiter then ([],1,rest)
      else
        let joins := p.expands && (line.reverse.takeWhile (· = '\\')).length % 2 = 1
        let (more,count,rest) := takeBody p fuel joins rest
        (cs.take (line.length + 1) ++ more,if line.length < cs.length then count + 1 else count,rest)

def takeSingle : Nat → Reader (List Char)
  | 0 => fail .openQuote
  | fuel + 1 => do
    match ← take with
    | none => fail .openQuote
    | some '\'' => return []
    | some x => return x :: (← takeSingle fuel)

/-- What stands in backquotes. A backslash before a backslash, a backquote or a dollar sign goes. -/
def takeBackquoted (double : Bool) : Nat → Reader (List Char)
  | 0 => fail .openBackquote
  | fuel + 1 => do
    match ← peek with
    | none => fail .openBackquote
    | some '\x60' => do
      skip
      return []
    | some '\\' => do
      skip
      match ← take with
      | none => fail .openBackquote
      | some x =>
        let rest ← takeBackquoted double fuel
        return if x = '\\' || x = '\x60' || x = '$' || (double && x = '"') then x :: rest else '\\' :: x :: rest
    | some x => do
      skip
      return x :: (← takeBackquoted double fuel)

def redirection (sign : Char) (descriptor : Option Nat) : Reader Token := do
  skip
  if sign = '<' then
    let d := descriptor.getD 0
    if ← accept '<' then return .here d (← accept '-')
    else if ← accept '&' then return .redirect d (.copy true)
    else if ← accept '>' then return .redirect d .readWrite
    else return .redirect d .read
  else
    let d := descriptor.getD 1
    if ← accept '>' then return .redirect d .append
    else if ← accept '|' then return .redirect d (.write true)
    else if ← accept '&' then return .redirect d (.copy false)
    else return .redirect d (.write false)

mutual

def parts : Nat → Context → Bool → Reader Word
  | 0, _, _ => return []
  | fuel + 1, context, inner => do
    match ← peek with
    | none =>
      if context.double && !context.here then fail .openQuote
      else if context.brace then fail .openBrace
      else return []
    | some x =>
      if x = '\x7d' && context.brace && !inner then do
        skip
        return []
      else if x = '$' then do
        skip
        return Word.cons (← dollar fuel context) (← parts fuel context inner)
      else if x = '\x60' then do
        skip
        let part ← backquoted fuel context.double
        return Word.cons part (← parts fuel context inner)
      else if context.double then do
        if x = '"' && (context.brace || !context.here) then
          skip
          if context.brace then return .mark :: (← parts fuel context !inner) else return []
        else if x = '\\' then
          skip
          let y ← take
          let text := match y with
            | none => "\\"
            | some y =>
              if y = '\\' || y = '\x60' || y = '$' || (y = '"' && (context.brace || !context.here)) ||
                (y = '\x7d' && context.brace) then String.ofList [y] else String.ofList ['\\',y]
          return Word.cons (.text text true) (← parts fuel context inner)
        else
          skip
          return Word.cons (.text (String.ofList [x]) true) (← parts fuel context inner)
      else if endsWord x && !context.brace then return []
      else do
        skip
        match x with
        | '\\' =>
          let y ← take
          return Word.cons (.text (String.ofList [y.getD '\\']) true) (← parts fuel context inner)
        | '\'' =>
          let text ← takeSingle ((← get).rest.length + 1)
          return .mark :: Word.cons (.text (String.ofList text) true) (.mark :: (← parts fuel context inner))
        | '"' =>
          let quoted ← parts fuel {double := true} false
          return .mark :: quoted ++ .mark :: (← parts fuel context inner)
        | x => return Word.cons (.text (String.ofList [x]) false) (← parts fuel context inner)

def dollar : Nat → Context → Reader Part
  | 0, context => return .text "$" context.double
  | fuel + 1, context => do
    match ← peek with
    | some '(' => do
      skip
      if ← accept '(' then return .sum (← sumParts fuel 0) context.double
      else return .output (← substitution fuel) context.double
    | some '\x7b' => do
      skip
      braced fuel context
    | some x =>
      if isNameStart x then
        return .param (String.ofList (← takeWhile isNameChar ((← get).rest.length + 1))) .value context.double
      else if isSpecial x then do
        skip
        return .param (String.ofList [x]) .value context.double
      else return .text "$" context.double
    | none => return .text "$" context.double

def braced : Nat → Context → Reader Part
  | 0, context => return .param "" .bad context.double
  | fuel + 1, context => do
    let bad : Reader Part := do
      let _ ← parts fuel {context with brace := true} false
      return .param "" .bad context.double
    let name : Reader (List Char) := do
      match ← peek with
      | some x => takeWhile (if x.isDigit then Char.isDigit else isNameChar) ((← get).rest.length + 1)
      | none => return []
    match ← peek with
    | none => do
      bad
    | some x =>
      if isNameChar x then used fuel context (String.ofList (← name))
      else if x = '#' then do
        skip
        match ← peek with
        | none => bad
        | some y =>
          if isNameChar y then
            let name ← name
            if ← accept '\x7d' then return .param (String.ofList name) .length context.double else bad
          else
            let rest := (← get).rest
            if y ≠ '\x7d' && (dropJoins 0 (rest.drop 1)).2.head? = some '\x7d' then
              skip
              if isSpecial y then
                skip
                return .param (String.ofList [y]) .length context.double
              else bad
            else used fuel context "#"
      else if isSpecial x then do
        skip
        used fuel context (String.ofList [x])
      else if x = '\x7d' then bad
      else do
        skip
        bad

def used : Nat → Context → String → Reader Part
  | 0, context, name => return .param name .bad context.double
  | fuel + 1, context, name => do
    let word (context : Context) : Reader Word := parts fuel {context with brace := true} false
    match ← take with
    | some '\x7d' => return .param name .value context.double
    | some x => do
      if x = '%' || x = '#' then
        let longest ← accept x
        let pattern ← parts fuel {brace := true} false
        return .param name (.trim (if x = '#' then .front else .back) longest pattern) context.double
      let orEmpty := x = ':'
      let x ← if orEmpty then do
          let _ ← peek
          take
        else pure (some x)
      match x with
      | some '-' => return .param name (.default orEmpty (← word context)) context.double
      | some '=' => return .param name (.assign orEmpty (← word context)) context.double
      | some '?' => return .param name (.demand orEmpty (← word context)) context.double
      | some '+' => return .param name (.alternative orEmpty (← word context)) context.double
      | some '\x7d' => return .param name .bad context.double
      | _ =>
        let _ ← word context
        return .param name .bad context.double
    | none => do
      let _ ← word context
      return .param name .bad context.double

/-- Reads a sum up to its two closing brackets; `depth` counts the open ones. -/
def sumParts : Nat → Nat → Reader Word
  | 0, _ => return []
  | fuel + 1, depth => do
    match ← peek with
    | none => fail .openSum
    | some x => do
      skip
      let text (s : String) (rest : Word) : Word := Word.cons (.text s true) rest
      match x with
      | '(' => return text "(" (← sumParts fuel (depth + 1))
      | ')' =>
        if depth > 0 then return text ")" (← sumParts fuel (depth - 1))
        else if ← accept ')' then return []
        else return text ")" (← sumParts fuel 0)
      | '$' => return Word.cons (← dollar fuel {double := true}) (← sumParts fuel depth)
      | '\x60' => return Word.cons (← backquoted fuel true) (← sumParts fuel depth)
      | '\\' =>
        let y ← take
        let s := match y with
          | none => "\\"
          | some y =>
            if y = '\\' || y = '\x60' || y = '$' || y = '"' then String.ofList [y] else String.ofList ['\\',y]
        return text s (← sumParts fuel depth)
      | x => return text (String.ofList [x]) (← sumParts fuel depth)

def substitution : Nat → Reader (Option Command)
  | 0 => return none
  | fuel + 1 => do
    let outside := (← get).pending
    modify fun c => {c with pending := [], held := none}
    let body ← list fuel false true none
    match ← token fuel .plain false with
    | .mark ")" =>
      modify fun c => {c with pending := outside, held := none}
      return body
    | other => unexpected other (some (.mark ")"))

def backquoted : Nat → Bool → Reader Part
  | 0, double => return .output none double
  | fuel + 1, double => do
    let text ← takeBackquoted double ((← get).rest.length + 1)
    let outside ← get
    set {outside with rest := text, line := 1, held := none, pending := [], replaced := []}
    let body ← list fuel false true none
    modify fun c => {outside with bodies := c.bodies, next := c.next}
    return .output body double

def fresh : Nat → Reader Token
  | 0 => return .fileEnd
  | fuel + 1 => do
    match ← peek with
    | none => return .fileEnd
    | some x =>
      match x with
      | ' ' | '\t' => do
        skip
        fresh fuel
      | '#' => do
        modify fun c => {c with rest := c.rest.dropWhile (· ≠ '\n')}
        fresh fuel
      | '\n' => do
        skip
        hereBodies fuel
        return .lineEnd
      | '&' => do
        skip
        return .mark (if ← accept '&' then "&&" else "&")
      | '|' => do
        skip
        return .mark (if ← accept '|' then "||" else "|")
      | ';' => do
        skip
        return .mark (if ← accept ';' then ";;" else ";")
      | '(' | ')' => do
        skip
        return .mark (String.ofList [x])
      | '<' | '>' => redirection x none
      | x => do
        let after := (dropJoins 0 ((← get).rest.drop 1)).2.head?
        if x.isDigit && (after = some '<' || after = some '>') then
          skip
          let sign ← peek
          redirection (sign.getD '<') (some (x.toNat - 48))
        else return .word (← parts fuel {} false)

def hereBodies : Nat → Reader Unit
  | 0 => return ()
  | fuel + 1 => do
    match (← get).pending with
    | [] => return ()
    | p :: pending => do
      let c ← get
      let (text,count,rest) := takeBody p (c.rest.length + 1) false c.rest
      let body ← if p.expands then do
          set {c with rest := text, pending := []}
          tryCatch (parts fuel {double := true, here := true} false) fun e =>
            throw {e with line := match e.fault with
              | .openBackquote => c.line + c.rest.count '\n'
              | .openQuote | .openBrace | .openSum => c.line + count
              | _ => e.line}
        else pure [.text (String.ofList text) true]
      modify fun now =>
        {now with rest, pending, line := c.line + count, bodies := (p.index,body) :: now.bodies}
      hereBodies fuel

def token : Nat → Role → Bool → Reader Token
  | 0, _, _ => return .fileEnd
  | fuel + 1, role, skipLines => do
    let c ← get
    let t ← match c.held with
      | some t =>
        set {c with held := none}
        pure t
      | none => fresh fuel
    match t with
    | .lineEnd => if skipLines then token fuel role true else return t
    | .word w =>
      match w.plain? with
      | some s =>
        if (role = .language || role = .keyword) && keywords.contains s then return .mark s
        else if ← replaceAlias role c.rest.length s then token fuel role skipLines
        else return t
      | none => return t
    | t => return t

/-- Reads commands with separators between them. At the top, the end of a line ends them; else `started` tells
whether there may be none. -/
def list : Nat → Bool → Bool → Option Command → Reader (Option Command)
  | 0, _, _, done => return done
  | fuel + 1, top, started, done => do
    match ← token fuel .language !top with
    | .lineEnd => return done
    | .fileEnd =>
      hold .fileEnd
      return done
    | t => do
      hold t
      if started && !top && endsList t then return done
      let command ← andOr fuel
      let next ← token fuel .plain false
      let command := match next with
        | .mark "&" => .background 0 command
        | _ => command
      let done := some (match done with
        | none => command
        | some before => .both before command)
      match next with
      | .fileEnd => do
        hold .fileEnd
        return done
      | .lineEnd => do
        hold .lineEnd
        list fuel top true done
      | .mark "&" | .mark ";" => list fuel top true done
      | other =>
        if top then unexpected other none
        else do
          hold other
          return done

def andOr : Nat → Reader Command
  | 0 => unexpected .fileEnd none
  | fuel + 1 => do
    let first ← pipeline fuel
    andOrRest fuel first

def andOrRest : Nat → Command → Reader Command
  | 0, first => return first
  | fuel + 1, first => do
    match ← token fuel .plain false with
    | .mark "&&" => do
      hold (← token fuel .language true)
      let second ← pipeline fuel
      andOrRest fuel (.ifOk first second)
    | .mark "||" => do
      hold (← token fuel .language true)
      let second ← pipeline fuel
      andOrRest fuel (.ifFailed first second)
    | other => do
      hold other
      return first

def pipeline : Nat → Reader Command
  | 0 => unexpected .fileEnd none
  | fuel + 1 => do
    let first ← token fuel .language false
    let negated := match first with
      | .mark "!" => true
      | _ => false
    hold (← if negated then token fuel .language false else pure first)
    let command ← command fuel
    let rest ← stages fuel
    let whole := if rest.isEmpty then command else .pipe (command :: rest)
    return if negated then .negate whole else whole

def stages : Nat → Reader (List Command)
  | 0 => return []
  | fuel + 1 => do
    match ← token fuel .plain false with
    | .mark "|" => do
      hold (← token fuel .language true)
      let command ← command fuel
      return command :: (← stages fuel)
    | other => do
      hold other
      return []

def expect : Nat → String → Reader Unit
  | 0, _ => return ()
  | fuel + 1, wanted => do
    match ← token fuel .language false with
    | .mark text => if text = wanted then return () else unexpected (.mark text) (some (.mark wanted))
    | other => unexpected other (some (.mark wanted))

def command : Nat → Reader Command
  | 0 => unexpected .fileEnd none
  | fuel + 1 => do
    let first ← token fuel .language false
    let line := (← get).line
    match first with
    | .mark "if" => do
      let (test,yes,no) ← branches fuel
      redirected fuel line (.choose test yes no)
    | .mark "while" => loop fuel line true
    | .mark "until" => loop fuel line false
    | .mark "for" => do
      let name ← match ← token fuel .plain false with
        | .word w =>
          match w.plain? with
          | some s => if isName s then pure s else fail .loopVariable
          | none => fail .loopVariable
        | _ => fail .loopVariable
      let words ← match ← token fuel .language true with
        | .mark "in" => do
          let words ← loopWords fuel
          match ← token fuel .plain false with
          | .lineEnd | .mark ";" => pure words
          | other => unexpected other none
        | .mark ";" => pure [[.mark,.param "@" .value true,.mark]]
        | other => do
          hold other
          pure [[.mark,.param "@" .value true,.mark]]
      hold (← token fuel .language true)
      expect fuel "do"
      let body ← list fuel false false none
      expect fuel "done"
      redirected fuel line (.each line name words body)
    | .mark "case" => do
      let word ← match ← token fuel .plain false with
        | .word w => pure w
        | other => unexpected other (some (.word []))
      hold (← token fuel .language true)
      expect fuel "in"
      let choices ← caseList fuel
      redirected fuel line (.select line word choices)
    | .mark "(" => do
      let body ← list fuel false false none
      expect fuel ")"
      let redirects ← redirections fuel
      return .apart line body redirects
    | .mark "\x7b" => do
      let body ← list fuel false false none
      expect fuel "\x7d"
      let redirects ← redirections fuel
      match body with
      | some body => return if redirects.isEmpty then body else .redirected line (some body) redirects
      | none => return .redirected line none redirects
    | .word _ | .redirect .. | .here .. => do
      hold first
      simple fuel line [] [] []
    | other => unexpected other none

def redirected : Nat → Nat → Command → Reader Command
  | 0, _, body => return body
  | fuel + 1, line, body => do
    let redirects ← redirections fuel
    return if redirects.isEmpty then body else .redirected line (some body) redirects

def loop : Nat → Nat → Bool → Reader Command
  | 0, _, _ => unexpected .fileEnd none
  | fuel + 1, line, wanted => do
    let test ← list fuel false false none
    expect fuel "do"
    let body ← list fuel false false none
    expect fuel "done"
    redirected fuel line (.loop wanted test body)

def branches : Nat → Reader (Option Command × Option Command × Option Command)
  | 0 => return (none,none,none)
  | fuel + 1 => do
    let test ← list fuel false false none
    expect fuel "then"
    let yes ← list fuel false false none
    match ← token fuel .language false with
    | .mark "elif" => do
      let (test',yes',no') ← branches fuel
      return (test,yes,some (.choose test' yes' no'))
    | .mark "else" => do
      let no ← list fuel false false none
      expect fuel "fi"
      return (test,yes,no)
    | other => do
      hold other
      expect fuel "fi"
      return (test,yes,none)

def loopWords : Nat → Reader (List Word)
  | 0 => return []
  | fuel + 1 => do
    match ← token fuel .plain false with
    | .word w => return w :: (← loopWords fuel)
    | other => do
      hold other
      return []

def caseList : Nat → Reader (List (List Word × Option Command))
  | 0 => return []
  | fuel + 1 => do
    match ← token fuel .keyword true with
    | .mark "esac" => return []
    | first => do
      let first ← match first with
        | .mark "(" => token fuel .plain false
        | t => pure t
      let patterns ← patterns fuel first
      let body ← list fuel false true none
      match ← token fuel .keyword true with
      | .mark "esac" => return [(patterns,body)]
      | .mark ";;" => return (patterns,body) :: (← caseList fuel)
      | other => unexpected other (some (.mark ";;"))

def patterns : Nat → Token → Reader (List Word)
  | 0, _ => return []
  | fuel + 1, first => do
    let word : Word := match first with
      | .word w => w
      | .mark text => [.text text false]
      | _ => []
    match ← token fuel .plain false with
    | .mark "|" => return word :: (← patterns fuel (← token fuel .plain false))
    | .mark ")" => return [word]
    | other => unexpected other (some (.mark ")"))

def redirections : Nat → Reader (List Redirect)
  | 0 => return []
  | fuel + 1 => do
    match ← token fuel .language false with
    | .redirect d kind => do
      let r ← target fuel d kind
      return r :: (← redirections fuel)
    | .here d stripTabs => do
      let r ← hereTarget fuel d stripTabs
      return r :: (← redirections fuel)
    | other => do
      hold other
      return []

def target : Nat → Nat → RedirectKind → Reader Redirect
  | 0, d, kind => return .to d kind []
  | fuel + 1, d, kind => do
    match ← token fuel .plain false with
    | .word w => return .to d kind w
    | other => unexpected other none

def hereTarget : Nat → Nat → Bool → Reader Redirect
  | 0, d, _ => return .to d .read []
  | fuel + 1, d, stripTabs => do
    match ← token fuel .plain false with
    | .word w => do
      let c ← get
      let delimiter := w.flatMap fun part => match part with
        | .text s _ => s.toList
        | .param name _ _ => '$' :: name.toList
        | _ => []
      let expands := w.all fun part => match part with
        | .text _ quoted => !quoted
        | .mark => false
        | _ => true
      let due : Pending := ⟨c.next,delimiter,expands,stripTabs⟩
      set {c with next := c.next + 1, pending := c.pending ++ [due]}
      return .to d (.here c.next) []
    | other => unexpected other none

def simple :
    Nat → Nat → List (String × Word) → List Word → List Redirect → Reader Command
  | 0, line, sets, words, redirects => return .simple line sets words redirects
  | fuel + 1, line, sets, words, redirects => do
    match ← token fuel (if words.isEmpty then .command else .plain) false with
    | .word w =>
      match if words.isEmpty then w.assignment? else none with
      | some set => simple fuel line (sets ++ [set]) words redirects
      | none => simple fuel line sets (words ++ [w]) redirects
    | .redirect d kind => do
      let r ← target fuel d kind
      simple fuel line sets words (redirects ++ [r])
    | .here d stripTabs => do
      let r ← hereTarget fuel d stripTabs
      simple fuel line sets words (redirects ++ [r])
    | .mark "(" =>
      match sets, words, redirects with
      | [], [word], [] => do
        match ← token fuel .plain false with
        | .mark ")" => pure ()
        | other => unexpected other (some (.mark ")"))
        let name := (word.plain?).getD ""
        if !isName name || reserved.contains name then fail .functionName
        hold (← token fuel .language true)
        let line := (← get).line
        return .define line name (← command fuel)
      | _, _, _ => do
        hold (.mark "(")
        return .simple line sets words redirects
    | other => do
      hold other
      return .simple line sets words redirects

end

def fuelFor (count : Nat) : Nat := 12 * count + 100

/-- Reads one complete line, none at the end of the text. -/
def line : Reader (Option (Option Command)) := do
  let c ← get
  let aliased := c.aliases.entries.foldl (fun n e => n + e.2.length) 0
  let fuel := fuelFor (c.rest.length + 8 * aliased)
  set {c with held := none, replaced := []}
  match ← token fuel .language false with
  | .fileEnd => return none
  | first => do
    hold first
    return some (← list fuel true false none)

end Reader

end Hostkeeper.Shell
