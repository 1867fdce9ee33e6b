import StackDepth.Command.LogFilter
import StackDepth.Command.Measure

namespace StackDepth.Command

def version : String := "0.1.0"

def versionText : String := "stack-gauge " ++ version ++ "\n"

def usageText : String := "Usage: stack-gauge <BINARY>\n"

def helpText : String :=
  "Estimate worst-case stack usage of an embedded binary\n\n" ++ usageText ++ "
Arguments:
  <BINARY>  Binary to disassemble (set OBJDUMP to pick the disassembler)

Options:
  -h, --help     Print help
  -V, --version  Print version
"

inductive Request where
  | measure (binary : String)
  | help
  | version
  | misuse
  deriving DecidableEq, Repr

namespace Request

def ofOption : List Char → Request
  | '-' :: '-' :: name =>
    if name = "help".toList then .help
    else if name = "version".toList then .version
    else .misuse
  | '-' :: 'h' :: _ => .help
  | '-' :: 'V' :: _ => .version
  | _ => .misuse

def isOption (argument : String) : Bool :=
  match argument.toList with
  | '-' :: _ :: _ => true
  | _ => false

def ofBinaries : List String → Request
  | [binary] => .measure binary
  | _ => .misuse

/-- Reads the arguments after those for binaries. The first option decides, and so does a second
binary; after two dashes there are only binaries. -/
def ofArguments (binaries : List String) : List String → Request
  | [] => ofBinaries binaries
  | argument :: arguments =>
    if argument = "--" then ofBinaries (binaries ++ arguments)
    else if isOption argument then ofOption argument.toList
    else if binaries.isEmpty then ofArguments [argument] arguments
    else .misuse

end Request

structure Outcome where
  exit : Nat
  stdout : String
  stderr : String
  deriving DecidableEq, Repr

def unlines (lines : List String) : String :=
  String.join (lines.map (· ++ "\n"))

def abortedText : String := "Formatting argument out of range"

def Run.outcome (filter : LogFilter) (complaints : List String) (run : Run) : Outcome :=
  let log := complaints ++ (run.notices.filter filter.shows).map logLine
  match run.failure with
  | none =>
    if run.aborted then ⟨101, run.output, unlines (log ++ [abortedText])⟩
    else ⟨0, run.output, unlines log⟩
  | some f => ⟨1, run.output, unlines (log ++ ["Error: " ++ f.display])⟩

variable {m : Type → Type} [Monad m]

/-- Runs the program with arguments. What it says of a misuse is left to the caller. -/
def run (host : Host m) (settings : Settings) (arguments : List String) : m Outcome := do
  let (filter, complaints) := LogFilter.parse (settings.logging.getD LogFilter.defaultSpec)
  match Request.ofArguments [] arguments with
  | .misuse => return ⟨2, "", ""⟩
  | .help => return ⟨0, helpText, unlines complaints⟩
  | .version => return ⟨0, versionText, unlines complaints⟩
  | .measure binary => return (← measure host settings binary).outcome filter complaints

end StackDepth.Command
