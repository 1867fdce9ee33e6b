import StackDepth.Instruction
import StackDepth.Json.Record

namespace StackDepth

open Json

namespace Kind

def adjustFields : List Field := [⟨"bytes", UInt64, .word, none⟩]

def branchFields : List Field := [⟨"target", UInt64, .word, none⟩]

def variants : List (Variant Kind) :=
  [.holding "stack_adjust" ((fun r : Record adjustFields ↦ .stackAdjust r.1) <$> readRecord _),
    .holding "branch" ((fun r : Record branchFields ↦ .branch r.1) <$> readRecord _),
    .bare "indirect_branch" .indirectBranch,
    .bare "other" .other]

def write : Kind → Value
  | .stackAdjust bytes =>
    .object [("stack_adjust", .object (Record.members adjustFields (bytes, ())))]
  | .branch target => .object [("branch", .object (Record.members branchFields (target, ())))]
  | .indirectBranch => .text "indirect_branch"
  | .other => .text "other"

def codec : Codec Kind where
  read := Variant.read variants
  write := write

end Kind

namespace Instruction

def fields : List Field :=
  [⟨"address", UInt64, .word, none⟩, ⟨"raw_bytes", String, .text, none⟩,
    ⟨"opcode", String, .text, none⟩, ⟨"operands", String, .text, none⟩,
    ⟨"comment", String, .text, none⟩, ⟨"kind", Kind, Kind.codec, none⟩]

def codec : Codec Instruction :=
  .record fields
    (fun (address, rawBytes, opcode, operands, comment, kind, ()) ↦
      ⟨address, rawBytes, opcode, operands, comment, kind⟩)
    (fun i ↦ (i.address, i.rawBytes, i.opcode, i.operands, i.comment, i.kind, ()))

end Instruction

end StackDepth
