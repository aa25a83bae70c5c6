import Hostkeeper.Shell.Session
import Hostkeeper.Shell.Signal

/-! The commands that a shell carries out itself, those apart that run other commands. A command that fails says why
and gives up; what that means for the shell is settled where the command is called. -/
namespace Hostkeeper.Shell.Builtins

def special : List String := Reader.reserved

def plain : List String :=
  ["[","alias","bg","cd","chdir","command","echo","false","fg","getopts","hash","jobs","kill","printf",
    "pwd","read","test","true","type","ulimit","umask","unalias","wait"]

def isBuiltin (name : String) : Bool := special.contains name || plain.contains name

/-- The commands whose arguments may set variables. -/
def declares (name : String) : Bool := ["export","readonly","local","alias"].contains name

def say (text : String) : Action Unit := do
  if !(← put 1 text) then
    complain ((((← get).command).getD "") ++ ": I/O error")
    setStatus 1

def tell (e : ToolEnd) : Action Unit := do
  setStatus e.code
  e.writes.forM fun w => if w.1 = 1 then say w.2 else do
    let _ ← put w.1 w.2

def options (plain valued : String) : List String → Action (List (Char × String) × List String)
  | [] => return ([],[])
  | arg :: rest =>
    match arg.toList with
    | ['-','-'] => return ([],rest)
    | '-' :: c :: cs => do
      match letters (c :: cs) with
      | .ok (found,none) =>
        let (more,operands) ← options plain valued rest
        return (found.map (fun c => (c,"")) ++ more,operands)
      | .ok (found,some (letter,value)) =>
        let found := found.map fun c => (c,"")
        if !value.isEmpty then
          let (more,operands) ← options plain valued rest
          return (found ++ (letter,String.ofList value) :: more,operands)
        else
          match rest with
          | value :: rest =>
            let (more,operands) ← options plain valued rest
            return (found ++ (letter,value) :: more,operands)
          | [] => giveUp ("No arg for -" ++ String.ofList [letter] ++ " option")
      | .error c => giveUp ("Illegal option -" ++ String.ofList [c])
    | _ => return ([],arg :: rest)
where
  letters : List Char → Except Char (List Char × Option (Char × List Char))
    | [] => .ok ([],none)
    | c :: cs =>
      if valued.contains c then .ok ([],some (c,cs))
      else if plain.contains c then (letters cs).map fun r => (c :: r.1,r.2)
      else .error c

def count (s : String) : Action Nat := do
  match integer? true s with
  | some n => if 0 ≤ n && n < (UInt32.size / 2 : Nat) then return n.toNat else giveUp ("Illegal number: " ++ s)
  | none => giveUp ("Illegal number: " ++ s)

def quoted (s : String) : String := String.ofList (go (s.length + 1) s.toList)
where
  go : Nat → List Char → List Char
    | 0, _ => []
    | fuel + 1, cs =>
      let ticks := (cs.dropWhile (· ≠ '\'')).takeWhile (· = '\'')
      let rest := (cs.dropWhile (· ≠ '\'')).dropWhile (· = '\'')
      '\'' :: cs.takeWhile (· ≠ '\'') ++ ['\''] ++ (if ticks.isEmpty then [] else '"' :: ticks ++ ['"']) ++
        if rest.isEmpty then [] else go fuel rest

def nameAndValue (arg : String) : String × Option String :=
  match arg.toList.dropWhile (· ≠ '=') with
  | [] => (arg,none)
  | _ :: value => (String.ofList (arg.toList.takeWhile (· ≠ '=')),some (String.ofList value))

def checkName (name : String) : Action Unit := do
  if !isName name then giveUp (name ++ ": bad variable name")

/-! ## Variables -/

def listVariables (word : String) (wanted : Variable → Bool) : Action Unit := do
  let entries := (← get).vars.entries.filter fun e => wanted e.2
  say (String.join (entries.map fun e =>
    word ++ e.1 ++ ((e.2.value.map fun v => "=" ++ quoted v).getD "") ++ "\n"))

def mark (word : String) (wanted : Variable → Bool) (change : Variable → Variable) (args : List String) :
    Action Unit := do
  let (found,operands) ← options "p" "" args
  if !found.isEmpty || operands.isEmpty then listVariables (word ++ " ") wanted
  else
    operands.forM fun arg => do
      let (name,value) := nameAndValue arg
      checkName name
      match value with
      | some s => changeVariable name fun v => change {v with value := some s}
      | none => modify fun m =>
        {m with vars := m.vars.insert name (change ((m.vars.get? name).getD ⟨none,false,false⟩))}

def localVariables (args : List String) : Action Unit := do
  if (← get).frames.isEmpty then giveUp "not in a function"
  args.forM fun arg => do
    let (name,value) := nameAndValue arg
    checkName name
    keepVariable name
    match value with
    | some s => setVariable name s
    | none => pure ()

def unset (args : List String) : Action Unit := do
  let (found,operands) ← options "vf" "" args
  operands.forM fun operand => do
    let m ← get
    if found.getLast?.any (·.1 = 'f') then set {m with functions := m.functions.erase operand}
    else
      let name := (nameAndValue operand).1
      if !isName name then giveUp (name ++ ": bad variable name")
      if (m.vars.get? name).any (·.readOnly) then giveUp (name ++ ": is read only")
      if m.vars.contains name then set {m with vars := m.vars.erase name}
      else if found.isEmpty then set {m with functions := m.functions.erase operand}

/-! ## Options and arguments -/

def switch (isOn : Bool) (letter : Char) : Action Unit := do
  if !(Machine.optionNames.any (·.1 = some letter)) then giveUp ("Illegal option -" ++ String.ofList [letter])
  modify fun m =>
    {m with options := (if isOn then [letter] else []) ++ m.options.filter (· ≠ letter)}

/-- Turns an option on or off by its name. Without one it lists them all, or gives the commands that set them;
`isListed` tells which are on by their letters. -/
def switchNamed (isOn : Bool) (isListed : Option Char → Bool) (name : Option String) : Action Unit := do
  match name with
  | none =>
    if isOn then
      say ("Current option settings\n" ++ String.join (Machine.optionNames.map fun o =>
        o.2 ++ String.ofList (List.replicate (16 - o.2.length) ' ') ++ (if isListed o.1 then "on" else "off") ++ "\n"))
    else
      say (String.join (Machine.optionNames.map fun o =>
        "set " ++ (if isListed o.1 then "-o " else "+o ") ++ o.2 ++ "\n"))
  | some name =>
    match Machine.optionNames.find? (·.2 = name) with
    | some (some letter,_) => switch isOn letter
    | some (none,_) => pure ()
    | none => giveUp ("Illegal option -o " ++ name)

def setOptions : List String → Action (Option (List String))
  | [] => return none
  | arg :: rest =>
    match arg.toList with
    | ['-'] => do
      modify fun m => {m with options := m.options.filter fun c => c ≠ 'x' && c ≠ 'v'}
      return if rest.isEmpty then none else some rest
    | ['-','-'] => return some rest
    | sign :: letters =>
      if sign = '-' || sign = '+' then do
        let named := letters.contains 'o'
        letters.forM fun c => do
          if c = 'o' then
            let m ← get
            switchNamed (sign = '-') (·.any m.has) rest.head?
          else switch (sign = '-') c
        setOptions (rest.drop (if named then 1 else 0))
      else return some (arg :: rest)
    | [] => return some (arg :: rest)
  termination_by args => args.length
  decreasing_by
    simp only [List.length_drop,List.length_cons]
    omega

def refuseMonitor : Action Unit := do
  if (← get).has 'm' then
    complain "can't access tty; job control turned off"
    switch false 'm'

def setCommand (args : List String) : Action Unit := do
  if args.isEmpty then listVariables "" (·.value.isSome)
  else
    let operands ← setOptions args
    refuseMonitor
    match operands with
    | some args => modify fun m => {m with args, optionPlace := none}
    | none => pure ()

def shift (args : List String) : Action Unit := do
  let n ← match args with
    | s :: _ => count s
    | [] => pure 1
  let m ← get
  if n > m.args.length then giveUp "can't shift that many"
  set {m with args := m.args.drop n, optionPlace := none}

def getopts (letters variableName : String) (args : List String) : Action Unit := do
  let m ← get
  let index := (((m.value? "OPTIND").bind String.toNat?).getD 1)
  let index := if index = 0 || index > args.length + 1 then 1 else index
  let silent := letters.toList.head? = some ':'
  let finish (letter : Char) (index : Nat) (place : Option Nat) (code : Nat) : Action Unit := do
    setVariable "OPTIND" (toString index)
    checkName variableName
    setVariable variableName (String.ofList [letter])
    modify fun m => {m with optionPlace := place, status := code}
  let within : List Char := match m.optionPlace with
    | some place => if index > 1 then ((args[index - 2]?).getD "").toList.drop place else []
    | none => []
  let fresh := within.isEmpty
  let word := (args[index - 1]?).getD ""
  if fresh && (word = "-" || word.toList.head? ≠ some '-') then finish '?' index none 1
  else if fresh && word = "--" then finish '?' (index + 1) none 1
  else
    let rest := if fresh then word.toList.drop 1 else within
    let index := if fresh then index + 1 else index
    match rest with
    | [] => finish '?' index none 1
    | c :: more =>
      let place : Option Nat := some (((args[index - 2]?).getD "").length - more.length)
      let wanted := letters.toList.zipIdx.find? fun l => l.1 = c && c ≠ ':'
      match wanted with
      | none =>
        if silent then setVariable "OPTARG" (String.ofList [c])
        else
          let _ ← put 2 ("Illegal option -" ++ String.ofList [c] ++ "\n")
          modify fun m => {m with vars := m.vars.erase "OPTARG"}
        finish '?' index place 0
      | some (_,i) =>
        if letters.toList[i + 1]? = some ':' then
          if !more.isEmpty then
            setVariable "OPTARG" (String.ofList more)
            finish c index none 0
          else
            match args[index - 1]? with
            | some value =>
              setVariable "OPTARG" value
              finish c (index + 1) none 0
            | none =>
              if silent then
                setVariable "OPTARG" (String.ofList [c])
                finish ':' index none 0
              else
                let _ ← put 2 ("No arg for -" ++ String.ofList [c] ++ " option\n")
                modify fun m => {m with vars := m.vars.erase "OPTARG"}
                finish '?' index none 0
        else
          setVariable "OPTARG" ""
          finish c index place 0

/-! ## Reading -/

/-- Reads a line; a backslash takes the meaning from the next character and joins lines, unless the reading is
raw. Gives the cells, whether the line had an end, and what is left. -/
def readLine (raw : Bool) : List Char → List Cell × Bool × List Char
  | [] => ([],false,[])
  | '\n' :: rest => ([],true,rest)
  | '\x00' :: rest => readLine raw rest
  | '\\' :: rest =>
    if raw then
      let (cells,ended,left) := readLine raw rest
      (.char '\\' true true :: cells,ended,left)
    else
      match rest with
      | [] => ([],false,[])
      | c :: rest =>
        let (cells,ended,left) := readLine raw rest
        (if c = '\n' then cells else .char c true false :: cells,ended,left)
  | c :: rest =>
    let (cells,ended,left) := readLine raw rest
    (.char c true true :: cells,ended,left)

def read (args : List String) : Action Unit := do
  let (found,names) ← options "r" "p" args
  if names.isEmpty then giveUp "arg count"
  let m ← get
  let (cells,ended,left) := readLine (found.any (·.1 = 'r')) (m.unread 0)
  set (m.setUnread 0 left)
  let texts := (Fields.ofCells m.separators (some names.length) cells).map textOf
  names.zipIdx.forM fun (name,i) => do
    checkName name
    setVariable name ((texts[i]?).getD "")
  setStatus (if ended then 0 else 1)

/-! ## Places -/

def logicalPath (place dir : String) : String :=
  let start := if Text.startsWith dir "/" then [] else pathSteps place
  let steps := (pathSteps dir).foldl (fun acc step =>
    if step = "." || step = "" then acc else if step = ".." then acc.dropLast else acc ++ [step]) start
  (if Text.startsWith dir "//" && !Text.startsWith dir "///" then "//" else "/") ++ Text.joinWith "/" steps

def changeDirectory (args : List String) : Action Unit := do
  let (_,operands) ← options "LP" "" args
  let m ← get
  let wanted := (operands.head?).getD ((m.value? "HOME").getD "")
  let dir := if wanted = "-" then (m.value? "OLDPWD").getD (Location.path m.here) else wanted
  let place := (m.value? "PWD").getD (ofText (Location.path m.here))
  let path := logicalPath place dir
  match m.tree.look (toText path) with
  | .ok (location,.dir) =>
    set {m with here := location}
    changeVariable "OLDPWD" fun v => {v with value := some place, exported := true}
    changeVariable "PWD" fun v => {v with value := some path, exported := true}
    if wanted = "-" then say (path ++ "\n")
  | _ => giveUp ("can't cd to " ++ wanted)

def fourOctal (n : Nat) : String :=
  let digits := Nat.toDigits 8 n
  String.ofList (List.replicate (4 - digits.length) '0' ++ digits)

def umask (args : List String) : Action Unit := do
  let (found,operands) ← options "S" "" args
  let m ← get
  match operands with
  | [] =>
    if found.isEmpty then say (fourOctal m.mask ++ "\n")
    else
      let rights (n : Nat) : String :=
        (if n / 4 % 2 = 0 then "r" else "") ++ (if n / 2 % 2 = 0 then "w" else "") ++ if n % 2 = 0 then "x" else ""
      say ("u=" ++ rights (m.mask / 64) ++ ",g=" ++ rights (m.mask / 8) ++ ",o=" ++ rights m.mask ++ "\n")
  | s :: _ =>
    if s.toList.all isOctal then set {m with mask := digitsValue 8 s.toList % 512}
    else if s.toList.head?.any Char.isDigit then giveUp ("Illegal number: " ++ s)
    else if s.toList.all fun c => "ugoarwx=+-,".contains c then
      if s.toList.all fun c => "ugoa".contains c || c.isAlpha then giveUp ("Illegal mode: " ++ s)
    else giveUp ("Illegal mode: " ++ s)

/-! ## Signals -/

/-- What a signal does to a process, the shell itself or one that it runs for. A shell that asks for its
commands does not end by an interrupt or a request to terminate. -/
def deliver (pid signal : Nat) (traps : List (Nat × String)) : Action Unit := do
  let m ← get
  let isDue : Action Unit := set {m with pending := m.pending ++ [(pid,signal)]}
  match if Signal.isFinal signal then none else traps.lookup signal with
  | some "" => pure ()
  | some _ => isDue
  | none =>
    let stays := m.has 'i' && pid = m.shellPid
    if stays && signal = Signal.interrupt then isDue
    else if stays && (signal = Signal.quit || signal = Signal.terminate) then pure ()
    else
      match Signal.effect signal with
      | .nothing => pure ()
      | .stops => throw .endless
      | .ends => throw (.killed pid signal)

def endJob (pid signal : Nat) : Action Unit := do
  if Signal.effect signal = .ends then
    modify fun m =>
      {m with
        jobs := m.jobs.map fun j =>
          if j.pid = pid && j.finish.all (· > m.time) then
            {j with finish := some m.time, code := 128 + signal, signal := some signal}
          else j
        written := m.written.filter fun w => !(w.job = some pid && w.time > m.time)}

def send (target : Int) (signal : Nat) : Action Bool := do
  let m ← get
  if target < 0 then return false
  let pid := if target = 0 then m.shellPid else target.toNat
  let traps? := if pid = m.pid then some m.traps else m.ancestors.lookup pid
  match traps? with
  | some traps => do
    if signal > 0 then deliver pid signal traps
    return true
  | none =>
    if m.jobs.any (·.pid = pid) then
      if signal > 0 then endJob pid signal
      return true
    else return false

def killUsage : String :=
  "Usage: kill [-s sigspec | -signum | -sigspec] [pid | job]... or\nkill -l [exitstatus]"

def job (arg : String) : Action Job := do
  let m ← get
  let rest := arg.toList.drop 1
  let found := if rest.all Char.isDigit && !rest.isEmpty then m.jobs[digitsValue 10 rest - 1]?
    else if rest.isEmpty || rest = ['%'] || rest = ['+'] then m.jobs.getLast?
    else none
  match found with
  | some j => return j
  | none => giveUp ("No such job: " ++ arg)

def kill (args : List String) : Action Unit := do
  let first := (args.head?).getD ""
  let direct := if Text.startsWith first "-" then Signal.number? 1 (String.ofList (first.toList.drop 1)) else none
  let (signal,lists,targets) ← match direct with
    | some n => pure (some n,false,args.tail)
    | none => do
      let (found,rest) ← if Text.startsWith first "-" then options "l" "s" args else pure ([],args)
      let signal ← match found.find? (·.1 = 's') with
        | some (_,name) =>
          match Signal.number? 1 name with
          | some n => pure (some n)
          | none => giveUp ("invalid signal number or name: " ++ name)
        | none => pure none
      pure (signal,found.any (·.1 = 'l'),rest)
  if lists then
    if signal.isSome then giveUp killUsage
    match targets with
    | [] => say ("0\n" ++ String.join ((Signal.names.drop 1).map (· ++ "\n")))
    | s :: _ =>
      let n ← count s
      let n := if n > 128 then n - 128 else n
      if 0 < n && n < Signal.names.length then say (Signal.name n ++ "\n")
      else giveUp ("invalid signal number or exit status: " ++ s)
  else if targets.isEmpty then giveUp killUsage
  else
    targets.forM fun target => do
      let pid : Int ← match target.toList with
        | '%' :: _ => do pure ((← job target).pid : Int)
        | '-' :: rest => do pure (-((← count (String.ofList rest)) : Int))
        | _ => do pure ((← count target) : Int)
      if !(← send pid (signal.getD 15)) then
        complain "No such process\n"
        setStatus 1

def setTrap (action : Option String) (signal : Nat) : Action Unit := modify fun m =>
  let rest := m.traps.filter (·.1 ≠ signal)
  {m with traps := match action with
      | some action => (signal,action) :: rest
      | none => rest}

def setTraps (action : Option String) : List String → Action Unit
  | [] => pure ()
  | name :: rest => do
    match Signal.number? 0 name with
    | some n => do
      setTrap action n
      setTraps action rest
    | none =>
      let _ ← put 2 ("trap: " ++ name ++ ": bad trap\n")
      setStatus 1

def trap (args : List String) : Action Unit := do
  let (_,operands) ← options "" "" args
  match operands with
  | [] =>
    let m ← get
    let set := (List.range Signal.names.length).filterMap fun n => (m.traps.lookup n).map fun action => (n,action)
    say (String.join (set.map fun t => "trap -- " ++ quoted t.2 ++ " " ++ Signal.name t.1 ++ "\n"))
  | [name] => setTraps none [name]
  | action :: names => setTraps (if action = "-" then none else some action) names

def waitFor (j : Job) : Action Unit := do
  match j.finish with
  | none => throw .endless
  | some time => modify fun m => {m with time := max m.time time}

def wait (args : List String) : Action Unit := do
  let (_,operands) ← options "" "" args
  if operands.isEmpty then
    (← get).jobs.forM waitFor
    modify fun m => {m with jobs := []}
  else
    operands.forM fun arg => do
      let found ← if Text.startsWith arg "%" then (some <$> job arg) else do
        let pid ← count arg
        pure ((← get).jobs.find? (·.pid = pid))
      match found with
      | none => setStatus 127
      | some j => do
        waitFor j
        modify fun m => {m with jobs := m.jobs.filter (·.pid ≠ j.pid), status := j.code}
        match j.signal with
        | some signal =>
          if Signal.isTold signal then
            let _ ← put 2 (Signal.description signal ++ "\n")
        | none => pure ()

/-! ## Names -/

def search (m : Machine) : List String := Text.splitOn ':' (toText ((m.value? "PATH").getD ""))

def find (m : Machine) (name : String) : Except OsError (Location × String × List UInt8) :=
  if name.isEmpty then .error .permissionDenied
  else m.tree.program (search m) (toText name) fun location path bytes => .ok (location,path,bytes)

/-- What a name stands for as a command: in one word, and in a sentence. -/
def meaning? (m : Machine) (name : String) : Option (String × String) :=
  if Reader.keywords.contains name then some (name," is a shell keyword")
  else if special.contains name then some (name," is a special shell builtin")
  else if m.functions.contains name then some (name," is a shell function")
  else if plain.contains name then some (name," is a shell builtin")
  else
    match find m name with
    | .ok (_,path,_) =>
      some (ofText path,(if m.known.contains name then " is a tracked alias for " else " is ") ++ ofText path)
    | .error _ => none

def describe (names : List String) : Action Unit := do
  names.forM fun name => do
    match meaning? (← get) name with
    | some (_,text) => say (name ++ text ++ "\n")
    | none => do
      say (name ++ ": not found\n")
      setStatus 127

def aliasRank (name : String) : Nat :=
  let first := ((name.toList.head?).map Char.toNat).getD 0
  name.toList.foldl (fun n c => n + c.toNat) (16 * first) % 39

def setAliases (args : List String) : Action Unit := do
  let m ← get
  let shown (name value : String) : String := name ++ "=" ++ quoted value ++ "\n"
  if args.isEmpty then
    let listed := m.aliases.entries.mergeSort fun a b => aliasRank a.1 ≤ aliasRank b.1
    say (String.join (listed.map fun e => shown e.1 e.2))
  args.forM fun arg => do
    match nameAndValue arg with
    | (name,some value) => modify fun m => {m with aliases := m.aliases.insert name value}
    | (name,none) =>
      match (← get).aliases.get? name with
      | some value => say (shown name value)
      | none => do
        let _ ← put 2 ("alias: " ++ name ++ " not found\n")
        setStatus 1

def dropAliases (args : List String) : Action Unit := do
  let (found,operands) ← options "a" "" args
  if !found.isEmpty then modify fun m => {m with aliases := .empty}
  operands.forM fun name => do
    let m ← get
    if m.aliases.contains name then set {m with aliases := m.aliases.erase name}
    else
      let _ ← put 2 ("unalias: " ++ name ++ " not found\n")
      setStatus 1

def hash (args : List String) : Action Unit := do
  let (found,operands) ← options "r" "" args
  let m ← get
  if !found.isEmpty then set {m with known := []}
  else if operands.isEmpty then
    say (String.join (m.known.filterMap fun name => (find m name).toOption.map fun p => ofText p.2.1 ++ "\n"))
  else
    operands.forM fun name => do
      if isBuiltin name || m.functions.contains name then pure ()
      else
        match find m name with
        | .ok _ => modify fun m => {m with known := name :: m.known.filter (· ≠ name)}
        | .error _ => do
          complain (name ++ ": not found")
          setStatus 1

def run (name : String) (args : List String) : Action Unit := do
  setStatus 0
  match name with
  | "echo" => tell (Tools.shellEcho args)
  | "printf" => tell (shellPrintf (← complaintOpening) args)
  | "test" | "[" => do
    match Test.run (Tools.holds (← get).tree) name args with
    | .ok answer => setStatus (if answer then 0 else 1)
    | .error e => giveUp e.message
  | "false" => setStatus 1
  | "export" => mark "export" (·.exported) (fun v => {v with exported := true}) args
  | "readonly" => mark "readonly" (·.readOnly) (fun v => {v with readOnly := true}) args
  | "local" => localVariables args
  | "unset" => unset args
  | "set" => setCommand args
  | "shift" => shift args
  | "getopts" => do
    let all := (← get).args
    match args with
    | letters :: variableName :: rest => getopts letters variableName (if rest.isEmpty then all else rest)
    | _ => giveUp "Usage: getopts optstring var [arg...]"
  | "read" => read args
  | "cd" | "chdir" => changeDirectory args
  | "pwd" => do
    let (found,_) ← options "LP" "" args
    let m ← get
    let physical := ofText (Location.path m.here)
    say ((if found.getLast?.any (·.1 = 'P') then physical else (m.value? "PWD").getD physical) ++ "\n")
  | "umask" => umask args
  | "ulimit" => say "unlimited\n"
  | "times" => say "0m0.000000s 0m0.000000s\n0m0.000000s 0m0.000000s\n"
  | "kill" => kill args
  | "trap" => trap args
  | "wait" => wait args
  | "type" => describe args
  | "alias" => setAliases args
  | "unalias" => dropAliases args
  | "hash" => hash args
  | "fg" | "bg" => giveUp "No current job"
  | _ => pure ()

end Hostkeeper.Shell.Builtins
