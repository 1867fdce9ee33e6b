import StackDepth.Instruction

namespace StackDepth

structure Routine where
  name : String
  entry : UInt64
  body : List Instruction
  frame : UInt64
  callees : List Nat
  deriving DecidableEq, Repr

namespace Routine

def ofHeader (name : String) (entry : UInt64) : Routine :=
  { name, entry, body := [], frame := 0, callees := [] }

def contains (r : Routine) (address : UInt64) : Bool :=
  match r.body.getLast? with
  | some last => r.entry ≤ address && address ≤ last.address
  | none => address == r.entry

/-- The last stack adjustment counts: it stands for the whole frame. -/
def reserved (r : Routine) : UInt64 :=
  (r.body.filterMap (·.kind.reserved?)).getLast?.getD 0

def targets (r : Routine) : List UInt64 :=
  r.body.filterMap (·.kind.target?)

def directCallees (routineAt : UInt64 → Option Nat) (r : Routine) : List Nat :=
  (r.targets.filterMap routineAt).eraseDups

def indexAt? (routines : List Routine) (address : UInt64) : Option Nat :=
  routines.findIdx? fun r ↦ r.entry == address

/-- The routine with the frame and the callees that a listing gives it. What it says of these two
itself does not matter. -/
def analyzedIn (routines : List Routine) (r : Routine) : Routine :=
  { r with frame := r.reserved, callees := r.directCallees (indexAt? routines) }

variable {routines : List Routine} {r : Routine}

@[simp] theorem name_analyzedIn : (r.analyzedIn routines).name = r.name := rfl

@[simp] theorem body_analyzedIn : (r.analyzedIn routines).body = r.body := rfl

@[simp] theorem contains_analyzedIn {address : UInt64} :
    (r.analyzedIn routines).contains address = r.contains address := rfl

theorem lt_length_of_mem_callees {c : Nat} (h : c ∈ (r.analyzedIn routines).callees) :
    c < routines.length := by
  obtain ⟨target, -, ht⟩ := List.mem_filterMap.mp (List.mem_eraseDups.mp h)
  exact (List.findIdx?_eq_some_iff_getElem.mp ht).1

end Routine

end StackDepth
