import StackDepth.Notice
import StackDepth.Routine

namespace StackDepth

/-- The names of routines of which each calls the next. -/
abbrev Chain := List String

/-- The routines of a listing with the calls between them, and the call hints that add to these. -/
structure Program where
  routines : List Routine
  hints : List Chain
  callees_lt : ∀ r ∈ routines, ∀ c ∈ r.callees, c < routines.length
  deriving DecidableEq, Repr

inductive Lookup where
  | found (id : Nat)
  | missing
  | ambiguous (count : Nat)
  deriving DecidableEq, Repr

namespace Lookup

def ofIds : List Nat → Lookup
  | [] => .missing
  | [id] => .found id
  | ids => .ambiguous ids.length

def id? : Lookup → Option Nat
  | .found id => some id
  | _ => none

def notices (name : String) : Lookup → List Notice
  | .ambiguous count => [.sharedName name count]
  | _ => []

end Lookup

namespace Program

def analyze (routines : List Routine) : Program where
  routines := routines.map (Routine.analyzedIn routines)
  hints := []
  callees_lt := by
    intro r hr c hc
    obtain ⟨s, -, rfl⟩ := List.mem_map.mp hr
    rw [List.length_map]
    exact Routine.lt_length_of_mem_callees hc

def withHints (p : Program) (hints : List Chain) : Program :=
  { p with hints := p.hints ++ hints }

@[simp] theorem routines_analyze (routines : List Routine) :
    (analyze routines).routines = routines.map (Routine.analyzedIn routines) := rfl

@[simp] theorem routines_withHints (p : Program) (hints : List Chain) :
    (p.withHints hints).routines = p.routines := rfl

@[simp] theorem hints_withHints (p : Program) (hints : List Chain) :
    (p.withHints hints).hints = p.hints ++ hints := rfl

def routineAt? (p : Program) (address : UInt64) : Option Nat :=
  Routine.indexAt? p.routines address

def routineContaining? (p : Program) (address : UInt64) : Option Nat :=
  p.routines.findIdx? fun r ↦ r.contains address

def nameOf (p : Program) (id : Nat) : String :=
  (p.routines[id]?.map Routine.name).getD ""

def idsNamed (p : Program) (name : String) : List Nat :=
  p.routines.zipIdx.filterMap fun (r, id) ↦ if r.name = name then some id else none

def lookup (p : Program) (name : String) : Lookup :=
  .ofIds (p.idsNamed name)

/-- The notice that a branch of a routine is worth: one that is no call. -/
def branchNotice? (p : Program) (caller : Routine) (i : Instruction) : Option Notice := do
  let target ← i.kind.target?
  guard (p.routineAt? target).isNone
  match p.routineContaining? target with
  | some inside => return .landsInside caller.name i.address (p.nameOf inside)
  | none => return .leavesListing caller.name i.address target

def branchNotices (p : Program) : List Notice :=
  p.routines.flatMap fun r ↦ r.body.filterMap (p.branchNotice? r)

end Program

end StackDepth
