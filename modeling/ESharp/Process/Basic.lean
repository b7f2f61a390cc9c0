import ESharp.Files.Directory
import ESharp.Number.Decimal

/-!
# Processes

A process starts from a working directory and ends with a status, with what it printed and with the
directory it leaves behind.
-/

namespace ESharp

namespace Signal

def names : List Text :=
  ["HUP", "INT", "QUIT", "ILL", "TRAP", "ABRT", "BUS", "FPE", "KILL", "USR1", "SEGV", "USR2",
    "PIPE", "ALRM", "TERM", "STKFLT", "CHLD", "CONT", "STOP", "TSTP", "TTIN", "TTOU", "URG", "XCPU",
    "XFSZ", "VTALRM", "PROF", "WINCH", "IO", "PWR", "SYS"].map String.toList

/-- What a shell says of a process that a signal ended, from the first signal on. -/
def descriptions : List Text :=
  ["Hangup", "Interrupt", "Quit", "Illegal instruction", "Trace/breakpoint trap", "Aborted",
    "Bus error", "Floating point exception", "Killed", "User defined signal 1",
    "Segmentation fault", "User defined signal 2", "Broken pipe", "Alarm clock", "Terminated",
    "Stack fault", "Child exited", "Continued", "Stopped (signal)", "Stopped",
    "Stopped (tty input)", "Stopped (tty output)", "Urgent I/O condition",
    "CPU time limit exceeded", "File size limit exceeded", "Virtual timer expired",
    "Profiling timer expired", "Window changed", "I/O possible", "Power failure",
    "Bad system call"].map String.toList

def name? (n : Nat) : Option Text := if n = 0 then none else names[n - 1]?

/-- The signal with a name, in upper or lower case. -/
def ofName? (t : Text) : Option Nat :=
  (names.findIdx? (· = t.map Char.toUpper)).map (· + 1)

def greatest : Nat := 64

/-- The signals that a process does not notice: news of its children and of its terminal. -/
def isIgnored (n : Nat) : Bool := n ∈ [17, 18, 23, 28]

/-- The signals that stop a process without ending it. -/
def isStop (n : Nat) : Bool := n ∈ [19, 20, 21, 22]

end Signal

inductive Status
  | exited (code : Nat)
  | killed (signal : Nat)
  deriving DecidableEq, Repr

namespace Status

def isSuccess (s : Status) : Bool := s == .exited 0

/-- The number by which a shell knows a status. -/
def number : Status → Nat
  | exited code => code
  | killed signal => 128 + signal

/-- The exit code of a process that was not killed. -/
def code? : Status → Option Nat
  | exited code => some code
  | killed _ => none

def message : Status → Text
  | exited code => "exit status: ".toList ++ Text.ofNat code
  | killed signal =>
    "signal: ".toList ++ Text.ofNat signal ++
      (match Signal.name? signal with
        | some name => " (SIG".toList ++ name ++ [')']
        | none => [])

end Status

/-- What a process leaves behind. -/
structure Outcome where
  directory : Directory
  status : Status := .exited 0
  output : Text := []
  errors : Text := []

namespace Process

def done (d : Directory) (output : Text) : Outcome := { directory := d, output }

def failed (d : Directory) (code : Nat) (errors : Text) : Outcome :=
  { directory := d, status := .exited code, errors }

/-- One process after another: both print, and the second status counts unless only the first is
bad. -/
def Outcome.after (first second : Outcome) : Outcome :=
  { directory := second.directory
    status := if second.status.isSuccess then first.status else second.status
    output := first.output ++ second.output
    errors := first.errors ++ second.errors }

def quote (name : Text) : Text := '\'' :: name ++ ['\'']

/-- The cause of a fault without its number. -/
def cause : FileError → Text
  | .noEntry => "No such file or directory".toList
  | .notDirectory => "Not a directory".toList
  | .isDirectory => "Is a directory".toList
  | .tooLong => "File name too long".toList
  | .zeroInName | .notText => "Invalid argument".toList

end Process
end ESharp
