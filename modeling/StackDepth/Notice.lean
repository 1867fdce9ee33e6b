import StackDepth.Text.Cut
import StackDepth.Text.Word

namespace StackDepth

inductive Level where
  | error
  | warn
  | info
  | debug
  | trace
  deriving DecidableEq, Repr

def Level.rank : Level → Nat
  | .error => 1
  | .warn => 2
  | .info => 3
  | .debug => 4
  | .trace => 5

def Level.name : Level → String
  | .error => "ERROR"
  | .warn => "WARN"
  | .info => "INFO"
  | .debug => "DEBUG"
  | .trace => "TRACE"

inductive Notice where
  /-- A name that `count` routines share stands for none of them. -/
  | sharedName (name : String) (count : Nat)
  | unknownHint (name : String)
  | landsInside (caller : String) (site : UInt64) (inside : String)
  | leavesListing (caller : String) (site target : UInt64)
  | toolStart (tool binary : String)
  | listingRead (source : String) (count : Nat) (binary : String)
  deriving DecidableEq, Repr

namespace Notice

def level : Notice → Level
  | .sharedName .. | .unknownHint .. => .warn
  | .landsInside .. | .leavesListing .. | .toolStart .. | .listingRead .. => .debug

def origin : Notice → String
  | .sharedName .. => "stack_gauge_core::model"
  | .unknownHint .. => "stack_gauge_core::hints"
  | .landsInside .. | .leavesListing .. => "stack_gauge_core::analysis"
  | .toolStart .. => "stack_gauge_core::services::backends::objdump"
  | .listingRead .. => "stack_gauge_core::services::disassembly"

def message : Notice → String
  | .sharedName name count => s!"more than one function named {name} ({count} symbols); ignoring it"
  | .unknownHint name => s!"call hint names unknown function {name}"
  | .landsInside caller site inside =>
    s!"{caller}: branch at {Text.hex site} lands inside {inside}; not a call"
  | .leavesListing caller site target =>
    s!"{caller}: branch at {Text.hex site} targets {Text.hex target} outside the listing; dropped"
  | .toolStart tool binary => s!"running {tool} -d {binary}"
  | .listingRead source count binary => s!"{source}: ingested {count} functions from {binary}"

end Notice

end StackDepth
