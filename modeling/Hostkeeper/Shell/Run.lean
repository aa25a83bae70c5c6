import Hostkeeper.Shell.Builtins
import Hostkeeper.Shell.Expand
import Hostkeeper.Shell.Image

/-! Running scripts: commands, functions, processes, and the programs that run others. The stages of a pipeline run
one after the other, each on all that the one before has written. `fuel` bounds the nesting and the rounds of
loops. -/
namespace Hostkeeper.Shell

inductive Ending where
  | exited (code : Nat)
  | signalled (signal : Nat)

structure Place where
  tested : Bool := false
  last : Bool := false

inductive Origin where
  | text
  | file
  | prompted
  deriving DecidableEq

namespace Run

/-- Takes note of the end of a process; an end by a signal is told. -/
def settle : Ending → Action Unit
  | .exited code => setStatus (code % 256)
  | .signalled signal => do
    if Signal.isTold signal then
      let _ ← put 2 (Signal.description signal ++ "\n")
    setStatus (128 + signal)

/-- Does something and gives what it writes to the output. What is written without end will do if there is any. -/
def keeping (action : Action Unit) : Action String := do
  let before ← get
  set (before.openStream 1 {outlet := .kept})
  let result ← observe action
  let m ← get
  let text := String.join ((m.streams.lookup before.nextStream).map (·.kept.reverse) |>.getD [])
  set (m.restore before [1])
  match result with
  | .ok () => return text
  | .error .endless =>
    if text.isEmpty then throw .endless
    modify fun m => {m with steps := before.steps, time := before.time}
    return text
  | .error stop => throw stop

def redirected (targets : List Target) (failed : Action Unit) (action : Action Unit) : Action Unit := do
  let before ← get
  let result ← observe (targets.forM redirect)
  let result ← match result with
    | .error .fault => do
      setStatus 2
      modify fun m => m.restore before (targets.map (·.descriptor))
      observe failed
    | .error stop => throw stop
    | .ok () => do
      let result ← observe action
      modify fun m => m.restore before (targets.map (·.descriptor))
      pure result
  resume result

def inLoop (action : Action Unit) : Action Unit := do
  modify fun m => {m with loops := m.loops + 1}
  let result ← observe action
  modify fun m => {m with loops := m.loops - 1}
  resume result

def check (p : Place) : Action Unit := do
  let m ← get
  if !p.tested && m.status ≠ 0 && m.has 'e' then throw .exits

/-- Takes the word `command`, which passes functions over, off the front of a command, as often as it stands
there; tells whether it did. `fuel` bounds how often. -/
def takeCommandWords : Nat → List String → Bool × List String
  | 0, words => (false,words)
  | fuel + 1, words =>
    match words with
    | "command" :: rest =>
      let isOption (arg : String) : Bool := arg.length > 1 && arg.toList.head? = some '-' &&
        (arg.toList.drop 1).all (· = 'p')
      match rest.dropWhile isOption with
      | "--" :: name :: args => (true,name :: args)
      | name :: args =>
        if Text.startsWith name "-" then (false,words) else (true,(takeCommandWords fuel (name :: args)).2)
      | [] => (false,words)
    | words => (false,words)

def plainCommand (words : List String) : Bool × List String := takeCommandWords words.length words

def newSession (m : Machine) (name : String) : Session :=
  let usual (name value : String) (vs : KeyMap Variable) : KeyMap Variable :=
    if vs.contains name then vs else vs.insert name {value := some value}
  let place := ofText (Location.path m.here)
  let exported := m.vars.filter fun _ v => v.exported && v.value.isSome
  let vars := usual "PPID" (toString (((m.ancestors.head?).map (·.1)).getD 1)) <| usual "PS1" "# " <|
    usual "PS2" "> " <| usual "PS4" "+ " exported
  {pid := m.pid, shellPid := m.pid, name, args := [], descriptors := m.descriptors, here := m.here, mask := m.mask
   ancestors := m.ancestors, traps := m.traps.filter (·.2 = "")
   vars := vars.insertAll
     [("IFS",{value := some " \t\n"}),("OPTIND",{value := some "1"}),
       ("PWD",{value := some place, exported := true})]}

def enter (s : Session) : Action Unit := modify fun m => {m with toSession := s}

def failureCode : OsError → Nat
  | .notFound | .notDirectory | .nameTooLong | .tooManyLinks => 127
  | _ => 126

structure Invocation where
  takesText : Bool := false
  off : List Char := []
  operands : List String := []

/-- Reads the arguments of a shell and sets its options. A listing shows what is not yet turned off as on. -/
def shellOptions (v : Invocation) : List String → Action Invocation
  | [] => return v
  | arg :: rest =>
    match arg.toList with
    | ['-'] | ['-','-'] => return {v with operands := rest}
    | sign :: letters =>
      if sign = '-' || sign = '+' then do
        let named := letters.contains 'o'
        let option? := if named then Machine.optionNames.find? (some ·.2 = rest.head?) else none
        let off := if sign = '+' then letters ++ (option?.bind (·.1)).toList ++ v.off else v.off
        letters.forM fun c => do
          if c = 'c' || c = 'l' then pure ()
          else if c = 'o' then
            let m ← get
            Builtins.switchNamed (sign = '-') (fun o => o.all fun c => m.has c || !off.contains c) rest.head?
          else Builtins.switch (sign = '-') c
        shellOptions {v with takesText := v.takesText || letters.contains 'c', off}
          (rest.drop (if named then 1 else 0))
      else return {v with operands := arg :: rest}
    | [] => return {v with operands := arg :: rest}
  termination_by args => args.length
  decreasing_by
    simp only [List.length_drop,List.length_cons]
    omega

mutual

def output : Nat → Option Command → Action String
  | 0, _ => throw .endless
  | _ + 1, none => return ""
  | fuel + 1, some command => do
    let status := (← get).status
    let text ← keeping (do settle (← fork fuel (eval fuel {last := true} command)))
    modify fun m => {m with outputStatus := m.status, status}
    return String.ofList (text.toList.filter (· ≠ '\x00'))

def fork : Nat → Action Unit → Action Ending
  | 0, _ => throw .endless
  | fuel + 1, action => do
    let before ← get
    let pid := before.nextPid
    set {before with
      pid, nextPid := pid + 1, traps := before.traps.filter (·.2 = "")
      ancestors := (before.pid,before.traps) :: before.ancestors}
    let result ← observe (do
      match ← observe action with
      | .error .endless => throw .endless
      | .error (.killed p s) => throw (.killed p s)
      | _ => leave fuel)
    let m ← get
    set {m with
      toSession := before.toSession
      jobs := m.jobs.filter fun j => before.jobs.any (·.pid = j.pid)}
    match result with
    | .ok () => return .exited m.status
    | .error (.killed p signal) => if p = pid then return .signalled signal else throw (.killed p signal)
    | .error stop => throw stop

def leave : Nat → Action Unit
  | 0 => throw .endless
  | fuel + 1 => do
    let m ← get
    match m.traps.lookup 0 with
    | none => pure ()
    | some action => do
      set {m with traps := m.traps.filter (·.1 ≠ 0), loops := 0}
      match ← observe (source fuel false .text action) with
      | .error .exits | .error .fault => pure ()
      | .error stop => throw stop
      | .ok () => setStatus m.status

def attend : Nat → Action Unit
  | 0 => throw .endless
  | fuel + 1 => do
    let m ← get
    match m.pending.find? (·.1 = m.pid) with
    | none => pure ()
    | some (pid,signal) => do
      set {m with pending := m.pending.erase (pid,signal)}
      match m.traps.lookup signal with
      | some action => do
        source fuel false .text action
        setStatus m.status
      | none => do
        let _ ← put 2 "\n"
        setStatus (128 + signal)
        throw .fault

def expanded : Nat → String → Action String
  | 0, _ => throw .endless
  | fuel + 1, text => do
    let m ← get
    let word := (Reader.parts (Reader.fuelFor text.length) {double := true, here := true} false).run
      {rest := text.toList, next := m.nextBody}
    match word with
    | .ok (word,c) => do
      set {m with bodies := c.bodies ++ m.bodies, nextBody := c.next, options := m.options.filter (· ≠ 'x')}
      let text ← Expand.text (output fuel) fuel word
      modify fun after => {after with options := m.options, status := m.status}
      return text
    | .error _ => return text

def prompt : Nat → String → Action Unit
  | 0, _ => throw .endless
  | fuel + 1, name => do
    let _ ← put 2 (← expanded fuel (((← get).value? name).getD ""))

def trace : Nat → List (Nat × Nat) → List String → Action Unit
  | 0, _, _ => throw .endless
  | fuel + 1, descriptors, words => do
    if (← get).has 'x' then
      let opening ← expanded fuel (((← get).value? "PS4").getD "")
      let m ← get
      match {m with descriptors}.write? 2 (opening ++ Text.joinWith " " words ++ "\n") with
      | some after => set {after with descriptors := m.descriptors}
      | none => pure ()

def source : Nat → Bool → Origin → String → Action Unit
  | 0, _, _, _ => throw .endless
  | fuel + 1, tested, origin, text => lines fuel tested origin false {rest := text.toList}

/-- Runs the lines of a script that are left; `ran` tells whether there were commands before. -/
def lines : Nat → Bool → Origin → Bool → Cursor → Action Unit
  | 0, _, _, _, _ => throw .endless
  | fuel + 1, tested, origin, ran, cursor => do
    if origin = .prompted then prompt fuel "PS1"
    let m ← get
    let told (text : List Char) (more : Nat) : Action Unit := do
      if origin ≠ .text && m.has 'v' then
        let _ ← put 2 (String.ofList text)
      if origin = .prompted then (List.replicate more "PS2").forM (prompt fuel)
    match Reader.line.run {cursor with bodies := [], next := m.nextBody, aliases := m.aliases} with
    | .error e => do
      let count := e.line - cursor.line + if e.fault matches .unexpected .lineEnd _ then 0 else 1
      told (((cursor.rest.splitOn '\n').take count).map (· ++ ['\n'])).flatten (count - 1)
      modify fun m => {m with line := e.line}
      giveUp ("Syntax error: " ++ e.fault.message)
    | .ok (command,c) => do
      let text := cursor.rest.take (cursor.rest.length - c.rest.length)
      let isWhole := text.getLast? = some '\n'
      told text (text.count '\n' - if isWhole then 1 else 0)
      modify fun m => {m with bodies := c.bodies ++ m.bodies, nextBody := c.next}
      match command with
      | none =>
        if origin = .prompted then
          let _ ← put 2 "\n"
        else if !ran then setStatus 0
      | some command => do
        evalSome fuel {tested} command
        lines fuel tested origin (ran || command.isSome) c

def evalSome : Nat → Place → Option Command → Action Unit
  | 0, _, _ => throw .endless
  | _ + 1, _, none => pure ()
  | fuel + 1, p, some command => eval fuel p command

def eval : Nat → Place → Command → Action Unit
  | 0, _, _ => throw .endless
  | fuel + 1, p, command => do
    if !(← get).has 'n' then
      attend fuel
      tick
      run fuel p command
      attend fuel

def run : Nat → Place → Command → Action Unit
  | 0, _, _ => throw .endless
  | fuel + 1, p, command => do
    let setLine (line : Nat) : Action Unit := modify fun m => {m with line}
    match command with
    | .simple line sets words redirects => do
      setLine line
      modify fun m => {m with outputStatus := 0}
      let fields ← commandWords fuel words []
      let targets ← targets fuel redirects
      simple fuel p sets fields targets
      check p
    | .pipe stages => do
      pipeline fuel p.tested (← get).status none stages
      check p
    | .background _ body => do
      let before ← get
      -- It starts a moment later than what comes next.
      set {before with job := some before.nextPid, time := before.time + 1}
      let result ← observe (fork fuel (do
        modify fun m => m.openStream 0 {outlet := .nothing}
        eval fuel {last := true} body))
      let m ← get
      let job : Job ← match result with
        | .ok (.exited code) => pure ⟨before.nextPid,some m.time,code % 256,none⟩
        | .ok (.signalled signal) => pure ⟨before.nextPid,some m.time,128 + signal,some signal⟩
        | .error .endless => pure ⟨before.nextPid,none,0,none⟩
        | .error stop => throw stop
      set {m with
        toSession := {before.toSession with lastJob := some job.pid, status := 0}
        time := before.time, job := before.job, steps := before.steps
        jobs := m.jobs ++ [job]}
    | .negate body => do
      eval fuel {tested := true} body
      modify fun m => {m with status := if m.status = 0 then 1 else 0}
    | .both first second => do
      eval fuel {p with last := false} first
      eval fuel p second
    | .ifOk first second => do
      eval fuel {tested := true} first
      if (← get).status = 0 then eval fuel p second
    | .ifFailed first second => do
      eval fuel {tested := true} first
      if (← get).status ≠ 0 then eval fuel p second
    | .choose test yes no => do
      evalSome fuel {tested := true} test
      if (← get).status = 0 then evalSome fuel p yes
      else
        match no with
        | some no => eval fuel p no
        | none => setStatus 0
    | .loop wanted test body => inLoop (loop fuel p.tested wanted test body 0)
    | .each line name words body => do
      setLine line
      let fields ← fieldsOf fuel words
      if fields.isEmpty then setStatus 0 else inLoop (each fuel p.tested name fields body)
    | .select line word cases => do
      setLine line
      let value ← Expand.whole (output fuel) fuel false word
      select fuel p value cases
    | .apart line body redirects => do
      setLine line
      let targets ← targets fuel redirects
      let action : Action Unit := do
        targets.forM redirect
        evalSome fuel {p with last := true} body
      if p.last && (← get).traps.isEmpty then action else settle (← fork fuel action)
      check p
    | .redirected line body redirects => do
      setLine line
      let targets ← targets fuel redirects
      redirected targets (pure ()) (evalSome fuel {tested := p.tested} body)
    | .define _ name body => modify fun m => {m with functions := m.functions.insert name body, status := 0}

/-- Runs the stages of a pipeline, the first one with a given input, each with a given status to start with. -/
def pipeline : Nat → Bool → Nat → Option String → List Command → Action Unit
  | 0, _, _, _, _ => throw .endless
  | _ + 1, _, _, _, [] => pure ()
  | fuel + 1, tested, status, input, stage :: rest => do
    let action : Action Unit := do
      setStatus status
      let child ← fork fuel (do
        match input with
        | some text => modify fun m => m.openStream 0 {unread := text.toList}
        | none => pure ()
        eval fuel {tested, last := true} stage)
      settle child
    if rest.isEmpty then action
    else
      let text ← keeping action
      pipeline fuel tested status (some text) rest

/-- Runs a body as long as a test comes out as wanted; `status` is that of the body so far. -/
def loop : Nat → Bool → Bool → Option Command → Option Command → Nat → Action Unit
  | 0, _, _, _, _, _ => throw .endless
  | fuel + 1, tested, wanted, test, body, status => do
    tick
    match ← observe (evalSome fuel {tested := true} test) with
    | .error (.breaks n) => if n > 1 then throw (.breaks (n - 1)) else setStatus status
    | .error (.continues n) =>
      if n > 1 then throw (.continues (n - 1)) else loop fuel tested wanted test body status
    | .error stop => throw stop
    | .ok () =>
      if ((← get).status = 0) = wanted then
        match ← observe (evalSome fuel {tested} body) with
        | .error (.breaks n) => if n > 1 then throw (.breaks (n - 1)) else pure ()
        | .error (.continues n) =>
          if n > 1 then throw (.continues (n - 1)) else loop fuel tested wanted test body 0
        | .error stop => throw stop
        | .ok () => loop fuel tested wanted test body (← get).status
      else setStatus status

def each : Nat → Bool → String → List String → Option Command → Action Unit
  | 0, _, _, _, _ => throw .endless
  | _ + 1, _, _, [], _ => pure ()
  | fuel + 1, tested, name, value :: rest, body => do
    setVariable name value
    match ← observe (evalSome fuel {tested} body) with
    | .error (.breaks n) => if n > 1 then throw (.breaks (n - 1)) else pure ()
    | .error (.continues n) => if n > 1 then throw (.continues (n - 1)) else each fuel tested name rest body
    | .error stop => throw stop
    | .ok () => each fuel tested name rest body

def select : Nat → Place → String → List (List Word × Option Command) → Action Unit
  | 0, _, _, _ => throw .endless
  | _ + 1, _, _, [] => setStatus 0
  | fuel + 1, p, value, (patterns,body) :: rest => do
    if ← anyTakes fuel value patterns then
      match body with
      | some body => eval fuel p body
      | none => setStatus 0
    else select fuel p value rest

def anyTakes : Nat → String → List Word → Action Bool
  | 0, _, _ => throw .endless
  | _ + 1, _, [] => return false
  | fuel + 1, value, word :: rest => do
    let pattern ← Expand.pattern (output fuel) fuel word
    if Glob.accepts pattern value.toList then return true else anyTakes fuel value rest

def fieldsOf : Nat → List Word → Action (List String)
  | 0, _ => throw .endless
  | _ + 1, [] => return []
  | fuel + 1, word :: rest => do
    let first ← Expand.fields (output fuel) fuel word
    return first ++ (← fieldsOf fuel rest)

/-- The words of a command, given those so far. A word that sets a variable for a command that declares it is
not cut. -/
def commandWords : Nat → List Word → List String → Action (List String)
  | 0, _, _ => throw .endless
  | _ + 1, [], done => return done
  | fuel + 1, word :: rest, done => do
    let declares := (plainCommand done).2.head?.any Builtins.declares
    let fields ← match declares, word.assignment? with
      | true, some (name,value) => do
        pure [name ++ "=" ++ (← Expand.whole (output fuel) fuel true value)]
      | _, _ => Expand.fields (output fuel) fuel word
    commandWords fuel rest (done ++ fields)

def targets : Nat → List Redirect → Action (List Target)
  | 0, _ => throw .endless
  | _ + 1, [] => return []
  | fuel + 1, .to descriptor kind word :: rest => do
    let text ← match kind with
      | .here index => do
        Expand.text (output fuel) fuel (((← get).bodies.lookup index).getD [])
      | _ => Expand.whole (output fuel) fuel false word
    match kind with
    | .copy _ =>
      if !(text = "-" || (text.length = 1 && text.toList.all Char.isDigit)) then
        giveUp "Syntax error: Bad fd number"
    | _ => pure ()
    return ⟨descriptor,kind,text⟩ :: (← targets fuel rest)

def assign : Nat → (String → String → Action Unit) → List (String × Word) → Action (List String)
  | 0, _, _ => throw .endless
  | _ + 1, _, [] => return []
  | fuel + 1, put, (name,word) :: rest => do
    let value ← Expand.whole (output fuel) fuel true word
    put name value
    return (name ++ "=" ++ value) :: (← assign fuel put rest)

def simple : Nat → Place → List (String × Word) → List String → List Target → Action Unit
  | 0, _, _, _, _ => throw .endless
  | fuel + 1, p, sets, words, targets => do
    let before ← get
    match words with
    | [] =>
      redirected targets (pure ()) (do
        let shown ← assign fuel setVariable sets
        if !shown.isEmpty then trace fuel before.descriptors shown
        modify fun m => {m with status := m.outputStatus})
    | _ =>
      let (passes,command) := plainCommand words
      let name := (command.head?).getD ""
      let isSpecial := !passes && Builtins.special.contains name
      let act : Action Unit := do
        if isSpecial || sets.isEmpty then
          let shown ← assign fuel setVariable sets
          trace fuel before.descriptors (shown ++ words)
          perform fuel p passes name command.tail
        else
          openFrame
          let result ← observe (do
            let shown ← assign fuel (fun name value => do
              keepVariable name
              changeVariable name fun v => {v with value := some value, exported := true}) sets
            trace fuel before.descriptors (shown ++ words)
            perform fuel p passes name command.tail)
          closeFrame
          resume result
      if name = "exec" && command.length = 1 then
        targets.forM redirect
        act
      else redirected targets (if isSpecial then throw .fault else pure ()) act

def perform : Nat → Place → Bool → String → List String → Action Unit
  | 0, _, _, _, _ => throw .endless
  | fuel + 1, p, passes, name, args => do
    let m ← get
    if Builtins.special.contains name then builtin fuel p (!passes) name args
    else
      match if passes then none else m.functions.get? name with
      | some body => call fuel p body args
      | none =>
        if Builtins.plain.contains name then builtin fuel p false name args
        else
          match if name.contains '/' then .ok default else Builtins.find m name with
          | .error e => do
            complain (name ++ ": " ++ openFailure "not found" e)
            setStatus 127
          | .ok _ =>
            if !name.contains '/' then
              modify fun m => {m with known := name :: m.known.filter (· ≠ name)}
            if p.last && m.traps.isEmpty then
              become fuel name args
              throw .exits
            else settle (← fork fuel (become fuel name args))

def call : Nat → Place → Command → List String → Action Unit
  | 0, _, _, _ => throw .endless
  | fuel + 1, p, body, args => do
    let before ← get
    if before.calls ≥ callLimit then
      giveUp ("Maximum function recursion depth (" ++ toString callLimit ++ ") reached")
    set {before with args, loops := 0, calls := before.calls + 1, optionPlace := none}
    openFrame
    let result ← observe (eval fuel {tested := p.tested} body)
    closeFrame
    modify fun m =>
      {m with args := before.args, loops := before.loops, calls := before.calls, optionPlace := before.optionPlace}
    match result with
    | .error .returns => pure ()
    | result => resume result

def builtin : Nat → Place → Bool → String → List String → Action Unit
  | 0, _, _, _, _ => throw .endless
  | fuel + 1, p, isSpecial, name, args => do
    let before := (← get).command
    modify fun m => {m with command := some name}
    let result ← observe (builtinBody fuel p name args)
    modify fun m => {m with command := before}
    match result with
    | .error .fault => if isSpecial then throw .fault else setStatus 2
    | result => resume result

def builtinBody : Nat → Place → String → List String → Action Unit
  | 0, _, _, _ => throw .endless
  | fuel + 1, p, name, args => do
    let m ← get
    let rounds : Action Nat := do
      match args with
      | [] => return min 1 m.loops
      | s :: _ => do
        let n ← Builtins.count s
        if n = 0 then giveUp ("Illegal number: " ++ s)
        return min n m.loops
    match name with
    | "eval" => source fuel p.tested .text (Text.joinWith " " args)
    | "." => do
      match args with
      | [] => setStatus 0
      | path :: _ => do
        let text ← dotText path
        if m.depth > scriptLimit then throw (.killed m.pid 11)
        modify fun m => {m with command := some path, depth := m.depth + 1}
        let result ← observe (source fuel false .file text)
        modify fun m => {m with depth := m.depth - 1}
        match result with
        | .error .returns => pure ()
        | result => resume result
    | "exec" => do
      match args with
      | [] => setStatus 0
      | name :: args => do
        become fuel name args
        throw .exits
    | "exit" => do
      match args with
      | [] => pure ()
      | s :: _ => setStatus (← Builtins.count s)
      throw .exits
    | "return" => do
      match args with
      | [] => pure ()
      | s :: _ => setStatus (← Builtins.count s)
      throw .returns
    | "break" => do
      let n ← rounds
      setStatus 0
      if n > 0 then throw (.breaks n)
    | "continue" => do
      let n ← rounds
      setStatus 0
      if n > 0 then throw (.continues n)
    | "command" => do
      setStatus 0
      let (found,operands) ← Builtins.options "pvV" "" args
      if found.any (·.1 = 'V') then Builtins.describe operands
      else
        match operands with
        | [] => pure ()
        | name :: _ =>
          match Builtins.meaning? m name with
          | some (text,_) => Builtins.say (text ++ "\n")
          | none => setStatus 127
    | _ => Builtins.run name args
where
  dotText (path : String) : Action String := do
    let m ← get
    if path.contains '/' then return String.ofList (← readStream path).unread
    else
      let found := (Builtins.search m).findSome? fun dir =>
        (m.tree.readBytes (joinPath dir (toText path))).toOption
      match found with
      | some bytes => return octets bytes
      | none => giveUp (path ++ ": not found")

def become : Nat → String → List String → Action Unit
  | 0, _, _ => throw .endless
  | fuel + 1, name, args => do
    let m ← get
    match Builtins.find m name with
    | .error e => refuse name e
    | .ok (location,path,bytes) =>
      let path := ofText path
      match Image.ofFile m.tree 5 location path args bytes with
      | .ok image => tool fuel {image with name := if image.name = path then name else image.name}
      | .error .exchangeFormat => tool fuel ⟨"sh","sh",path :: args⟩
      | .error e => refuse name e
where
  refuse (name : String) (e : OsError) : Action Unit := do
    complain (name ++ ": " ++ openFailure "not found" e)
    setStatus (failureCode e)

def tool : Nat → Image → Action Unit
  | 0, _ => throw .endless
  | fuel + 1, image => do
    let m ← get
    if ["sh","dash","bash"].contains image.tool then shell fuel image.name image.args
    else
      set {m with
        traps := m.traps.filter (·.2 = "")
        yields := if m.ancestors.isEmpty then (if m.traps.lookup 15 = some "" then none else some 0) else m.yields}
      if image.tool = "env" then environment fuel image.args
      else
        match Tools.program? image.tool with
        | none => setStatus 0
        | some program => do
          let e := program ⟨image.name,m.tree,(m.stream? 0).map fun s => String.ofList s.2.unread,image.args⟩
          match e.unread with
          | some rest => modify fun m => m.setUnread 0 rest.toList
          | none => pure ()
          e.writes.forM fun w => do
            let _ ← put w.1 w.2
          setStatus e.code
          pass e.takes

def environment : Nat → List String → Action Unit
  | 0, _ => throw .endless
  | _ + 1, [] => do
    let m ← get
    let shown := m.vars.entries.filterMap fun e =>
      if e.2.exported then e.2.value.map fun v => e.1 ++ "=" ++ v ++ "\n" else none
    let _ ← put 1 (String.join shown)
    setStatus 0
  | fuel + 1, arg :: rest => do
    if arg = "-i" || arg = "-" then
      modify fun m => {m with vars := .empty}
      environment fuel rest
    else if arg.contains '=' then
      let (name,value) := Builtins.nameAndValue arg
      modify fun m => {m with vars := m.vars.insert name ⟨value,true,false⟩}
      environment fuel rest
    else
      let m ← get
      match Builtins.find m arg with
      | .ok _ => become fuel arg rest
      | .error e => do
        let _ ← put 2 ("env: " ++ Quoting.shown arg ++ ": " ++ e.reason ++ "\n")
        setStatus (failureCode e)

def shell : Nat → String → List String → Action Unit
  | 0, _, _ => throw .endless
  | fuel + 1, name, args => do
    let before ← get
    if before.depth > scriptLimit then throw (.killed before.pid 11)
    enter (newSession before name)
    modify fun m => {m with depth := m.depth + 1}
    let result ← observe (do
      let v ← shellOptions {} args
      if v.takesText && v.operands.isEmpty then giveUp "-c requires an argument"
      if v.operands.isEmpty && !v.takesText then Builtins.switch true 's'
      let m ← get
      let readsInput := !v.takesText && m.has 's'
      let text ← match v.operands with
        | first :: _ =>
          if v.takesText then pure first
          else if readsInput then takeInput
          else do pure (String.ofList (← readStream first).unread)
        | [] => takeInput
      let names := if readsInput then name :: v.operands else if v.takesText then v.operands.tail else v.operands
      modify fun m => {m with name := (names.head?).getD name, args := names.tail}
      if m.has 'i' && !v.off.contains 'm' then Builtins.switch true 'm'
      Builtins.refuseMonitor
      let origin : Origin := if v.takesText then .text else if readsInput && m.has 'i' then .prompted else .file
      match ← observe (source fuel false origin text) with
      | .error .fault =>
        if m.has 'i' then
          let more ← if origin = .prompted then pure "" else takeInput
          match ← observe (source fuel false .prompted more) with
          | .error .fault => source fuel false .prompted ""
          | result => resume result
        else throw .fault
      | .ok () => if v.takesText && m.has 's' then source fuel false .file (← takeInput)
      | result => resume result)
    modify fun m => {m with depth := before.depth}
    let m ← get
    if m.pid = before.pid && before.ancestors.isEmpty && !(result matches .error .exits) then
      set {m with yields := match m.traps.lookup 15 with
        | none => some 0
        | some "" => none
        | some action =>
          match ((source fuel false .text action).run {m with steps := 0, time := 0}).1 with
          | .error .exits | .error (.killed ..) => some (max 1 m.longest)
          | _ => none}
    match result with
    | .error .endless => throw .endless
    | .error (.killed p signal) => throw (.killed p signal)
    | _ => leave fuel
    modify fun m => {m with traps := []}
where
  takeInput : Action String := do
    let m ← get
    set (m.setUnread 0 [])
    return String.ofList (m.unread 0)

end

end Run

end Hostkeeper.Shell
