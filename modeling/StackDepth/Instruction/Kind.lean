import StackDepth.Text.Cut
import StackDepth.Text.Word

namespace StackDepth

inductive Kind where
  | stackAdjust (bytes : UInt64)
  | branch (target : UInt64)
  /-- Goes to an address that the text does not show. -/
  | indirectBranch
  | other
  deriving DecidableEq, Repr

namespace Kind

open Text

def subtractions : List String := ["sub", "sub.w", "subw"]

/-- Beginnings of opcodes that begin with `b` and do not branch. -/
def nonBranches : List String := ["bic", "bfi", "bfc", "bkpt"]

def immediate? : List Char → Option UInt64
  | '0' :: 'x' :: digits => word? 16 digits
  | '0' :: 'X' :: digits => word? 16 digits
  | digits => word? 10 digits

def adjustment? (opcode operands : String) : Option UInt64 := do
  guard (opcode ∈ subtractions)
  let _ ← after? "sp, ".toList operands.toList
  let (_, immediate) ← cut? (· == '#') operands.toList
  immediate? (immediate.takeWhile fun c ↦ !(c == ',' || isWhite c))

def isBranch (opcode : String) : Bool :=
  ['b'].isPrefixOf opcode.toList && !nonBranches.any (·.toList.isPrefixOf opcode.toList)

def literalTarget? (operands : String) : Option UInt64 := do
  let (before, _) ← cutOn? " <".toList operands.toList
  let address := trim before
  word? 16 ((after? "0x".toList address).getD address)

def classify (opcode operands : String) : Kind :=
  match adjustment? opcode operands with
  | some bytes => .stackAdjust bytes
  | none =>
    if isBranch opcode then
      match literalTarget? operands with
      | some target => .branch target
      | none => .indirectBranch
    else .other

def reserved? : Kind → Option UInt64
  | .stackAdjust bytes => some bytes
  | _ => none

def target? : Kind → Option UInt64
  | .branch target => some target
  | _ => none

end Kind

end StackDepth
