import Hostkeeper.Text.Blank

/-! Signals: their numbers, their names, and what they are called when they end a process. -/
namespace Hostkeeper.Shell.Signal

/-- The names of the signals by number; the number 0 stands for the end of the shell. -/
def names : List String :=
  ["EXIT","HUP","INT","QUIT","ILL","TRAP","ABRT","BUS","FPE","KILL","USR1","SEGV","USR2","PIPE","ALRM",
    "TERM","16","CHLD","CONT","STOP","TSTP","TTIN","TTOU","URG","XCPU","XFSZ","VTALRM","PROF","WINCH",
    "IO","PWR","SYS","32","33","RTMIN"] ++
    ((List.range 15).map fun i => "RTMIN+" ++ toString (i + 1)) ++
    ((List.range 14).map fun i => "RTMAX-" ++ toString (14 - i)) ++ ["RTMAX"]

def interrupt : Nat := 2

def quit : Nat := 3

def terminate : Nat := 15

def name (number : Nat) : String := (names[number]?).getD (toString number)

/-- The number of a signal, by its name in any case or by its number, not less than a given one. -/
def number? (least : Nat) (s : String) : Option Nat :=
  if !s.isEmpty && s.toList.all Char.isDigit then s.toNat?.filter (· < names.length)
  else
    let upper (s : String) : List Char := s.toList.map Char.toUpper
    ((names.drop least).findIdx? fun n => upper n = upper s).map (· + least)

def description (number : Nat) : String :=
  match number with
  | 1 => "Hangup"
  | 2 => "Interrupt"
  | 3 => "Quit"
  | 4 => "Illegal instruction"
  | 5 => "Trace/breakpoint trap"
  | 6 => "Aborted"
  | 7 => "Bus error"
  | 8 => "Floating point exception"
  | 9 => "Killed"
  | 10 => "User defined signal 1"
  | 11 => "Segmentation fault"
  | 12 => "User defined signal 2"
  | 13 => "Broken pipe"
  | 14 => "Alarm clock"
  | 15 => "Terminated"
  | 16 => "Stack fault"
  | 24 => "CPU time limit exceeded"
  | 25 => "File size limit exceeded"
  | 26 => "Virtual timer expired"
  | 27 => "Profiling timer expired"
  | 29 => "I/O possible"
  | 30 => "Power failure"
  | 31 => "Bad system call"
  | n => if n ≥ 34 then "Real-time signal " ++ toString (n - 34) else "Unknown signal " ++ toString n

inductive Effect where
  | ends
  | stops
  | nothing
  deriving DecidableEq

def effect (number : Nat) : Effect :=
  if [17,18,23,28].contains number then .nothing else if [19,20,21,22].contains number then .stops else .ends

def isFinal (number : Nat) : Bool := number = 9 || number = 19

def isTold (number : Nat) : Bool := number ≠ 2 && number ≠ 13

end Hostkeeper.Shell.Signal
