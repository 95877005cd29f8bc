import DocLint.FileTree.Basic
import DocLint.Vcs

/-!
# Git

Version control by a program that is run in a directory.  How a program runs is a parameter; this
module says with which arguments it is run and how its answers are read.
-/
namespace DocLint

/-- The status with which a program ended: its own, or the signal that ended it, which may have left
an image of its memory. -/
inductive ExitStatus where
  | exited (code : Nat)
  | signaled (signal : Nat) (coreDumped : Bool)
deriving DecidableEq, Repr

namespace ExitStatus

def isSuccess (s : ExitStatus) : Bool := s == .exited 0

/-- The names of the signals that have one, from the first on. -/
def signalNames : List String :=
  ["SIGHUP", "SIGINT", "SIGQUIT", "SIGILL", "SIGTRAP", "SIGABRT", "SIGBUS", "SIGFPE", "SIGKILL",
    "SIGUSR1", "SIGSEGV", "SIGUSR2", "SIGPIPE", "SIGALRM", "SIGTERM", "SIGSTKFLT", "SIGCHLD",
    "SIGCONT", "SIGSTOP", "SIGTSTP", "SIGTTIN", "SIGTTOU", "SIGURG", "SIGXCPU", "SIGXFSZ",
    "SIGVTALRM", "SIGPROF", "SIGWINCH", "SIGIO", "SIGPWR", "SIGSYS"]

def signalText (signal : Nat) : String :=
  match if signal = 0 then none else signalNames[signal - 1]? with
  | some name => toString signal ++ " (" ++ name ++ ")"
  | none => toString signal

def message : ExitStatus → String
  | .exited code => "exit status: " ++ toString code
  | .signaled signal coreDumped =>
    "signal: " ++ signalText signal ++ if coreDumped then " (core dumped)" else ""

end ExitStatus

structure Finished where
  status : ExitStatus
  stdout : List UInt8
  stderr : List UInt8

/-- Runs a program in a directory with some arguments, or says why it cannot be started. -/
abbrev ProgramRunner := (program workDir : String) → List String → Except IoError Finished

/-- The program to run, and the directory to run it in. -/
structure Git where
  program : String
  workDir : String

namespace Git

def defaultProgram : String := "git"

def arguments : VcsCall → List String
  | .fetch remote branch => ["fetch", remote, branch]
  | .diff branch => ["diff", "--name-only", "--relative", branch]

/-- The standard output of a call as text.  A call without success is an error, which quotes the
standard error without the blanks around it. -/
def run (git : Git) (runner : ProgramRunner) (call : VcsCall) : Except VcsError String :=
  let command := " ".intercalate (git.program :: arguments call)
  match runner git.program git.workDir (arguments call) with
  | .error e => .error (.spawn git.program e.message)
  | .ok finished =>
    if !finished.status.isSuccess then
      .error (.command command finished.status.message
        (Text.trimmed (Text.decodeLenient finished.stderr)))
    else
      match Text.decodeUtf8 finished.stdout with
      | .error e => .error (.output command e.message)
      | .ok text => .ok text

/-- The names in a list of changed files: its lines without the blanks around them. -/
def readNames (text : String) : List String :=
  ((Text.lines text.toList).map Text.trim).filterMap fun line =>
    if line.isEmpty then none else some (String.ofList line)

def vcs (git : Git) (runner : ProgramRunner) : Vcs where
  fetch remote branch := (git.run runner (.fetch remote branch)).map fun _ => ()
  changed branch := (git.run runner (.diff branch)).map readNames

end Git
end DocLint
