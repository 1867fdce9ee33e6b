import StackDepth.Instruction.Kind

namespace StackDepth

structure Instruction where
  address : UInt64
  rawBytes : String
  opcode : String
  operands : String
  comment : String
  kind : Kind
  deriving DecidableEq, Repr

namespace Instruction

open Text

/-- Splits the opcode from the rest at the first TAB, or where there is none at the first white
space. -/
def splitOpcode (decoded : List Char) : List Char × List Char :=
  ((cut? (· == '\t') decoded).or (cut? isWhite decoded)).getD (decoded, [])

def splitComment (rest : List Char) : List Char × List Char :=
  (cut? (· == ';') rest).getD (rest, [])

def ofText (address : UInt64) (rawBytes decoded : String) : Instruction :=
  let (opcode, rest) := splitOpcode (trim decoded.toList)
  let (operands, comment) := splitComment rest
  let opcode := String.ofList (trim opcode)
  let operands := String.ofList (trim operands)
  { address, rawBytes, opcode, operands
    comment := String.ofList (trim comment)
    kind := .classify opcode operands }

end Instruction

end StackDepth
