import StackDepth.Disassembly
import StackDepth.Plan.Run

namespace StackDepth.Command

inductive Failure where
  | load (path : String) (cause : LoadError)
  | query (cause : QueryFailure)
  deriving DecidableEq, Repr

namespace Failure

def top : Failure → String
  | .load path _ => s!"Failed to load program from {path}"
  | .query cause => cause.message

def causes : Failure → List String
  | .load _ cause => cause.chain
  | .query cause => [cause.cycle.message]

def message (f : Failure) : String :=
  ": ".intercalate (f.top :: f.causes)

def indented (first rest : String) (cause : String) : String :=
  "\n" ++ first ++ Text.hang rest cause

def display (f : Failure) : String :=
  let causes := match f.causes with
    | [cause] => indented "    " "    " cause
    | causes => String.join (causes.mapIdx fun i cause ↦ indented s!"    {i}: " "       " cause)
  f.top ++ "\n\nCaused by:" ++ causes

end Failure

structure Run where
  output : String
  notices : List Notice
  failure : Option Failure
  aborted : Bool

variable {m : Type → Type} [Monad m]

/-- The canonical path of a binary. A path that leads nowhere is only seen from the current
directory. -/
def resolvePath (host : Host m) (binary : String) : m String := do
  match ← host.canonicalPath? binary with
  | some path => return path
  | none => return joinPath (← host.currentDirectory) binary

def measure (host : Host m) (settings : Settings) (binary : String) : m Run := do
  let path ← resolvePath host binary
  let loaded ← host.load (.ofSettings settings) path
  match loaded.outcome with
  | .error e => return ⟨"", loaded.notices, some (.load path e), false⟩
  | .ok p =>
    let run := Plan.builtin.run (Plan.builtin.applyHints p)
    return ⟨run.output, loaded.notices ++ run.notices, run.failure.map .query, run.aborted⟩

end StackDepth.Command
