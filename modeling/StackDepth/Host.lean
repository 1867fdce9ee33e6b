import StackDepth.Text.Utf8

namespace StackDepth

inductive HostFault where
  | noEntry
  | accessDenied
  | notDirectory
  | isDirectory
  | nameTooLong
  | linkLoop
  | nulInFileName
  | nulInCommand
  | notUtf8
  deriving DecidableEq, Repr

def HostFault.message : HostFault → String
  | .noEntry => "No such file or directory (os error 2)"
  | .accessDenied => "Permission denied (os error 13)"
  | .notDirectory => "Not a directory (os error 20)"
  | .isDirectory => "Is a directory (os error 21)"
  | .nameTooLong => "File name too long (os error 36)"
  | .linkLoop => "Too many levels of symbolic links (os error 40)"
  | .nulInFileName => "file name contained an unexpected NUL byte"
  | .nulInCommand => "nul byte found in provided data"
  | .notUtf8 => Utf8.invalidReason

inductive ExitStatus where
  | code (n : Nat)
  | signal (n : Nat)
  deriving DecidableEq, Repr

namespace ExitStatus

def signalNames : List String :=
  ["SIGHUP", "SIGINT", "SIGQUIT", "SIGILL", "SIGTRAP", "SIGABRT", "SIGBUS", "SIGFPE", "SIGKILL",
    "SIGUSR1", "SIGSEGV", "SIGUSR2", "SIGPIPE", "SIGALRM", "SIGTERM", "SIGSTKFLT", "SIGCHLD",
    "SIGCONT", "SIGSTOP", "SIGTSTP", "SIGTTIN", "SIGTTOU", "SIGURG", "SIGXCPU", "SIGXFSZ",
    "SIGVTALRM", "SIGPROF", "SIGWINCH", "SIGIO", "SIGPWR", "SIGSYS"]

def signalName? (n : Nat) : Option String :=
  if n = 0 then none else signalNames[n - 1]?

def text : ExitStatus → String
  | .code n => s!"exit status: {n}"
  | .signal n =>
    match signalName? n with
    | some name => s!"signal: {n} ({name})"
    | none => s!"signal: {n}"

end ExitStatus

structure ToolRun where
  stdout : List UInt8
  stderr : List UInt8
  status : ExitStatus
  deriving DecidableEq, Repr

/-- What the program asks of its surroundings. -/
structure Host (m : Type → Type) where
  currentDirectory : m String
  /-- The path of what a path leads to, without links; none where it leads nowhere. -/
  canonicalPath? : String → m (Option String)
  isFile : String → m Bool
  readFile : String → m (Except HostFault (List UInt8))
  runTool : String → List String → m (Except HostFault ToolRun)

def joinPath (directory path : String) : String :=
  if ['/'].isPrefixOf path.toList then path
  else if directory.toList.getLast? = some '/' then directory ++ path
  else directory ++ "/" ++ path

end StackDepth
