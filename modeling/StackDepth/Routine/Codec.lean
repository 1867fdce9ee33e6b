import StackDepth.Instruction.Codec
import StackDepth.Routine

namespace StackDepth.Routine

open Json

def fields : List Field :=
  [⟨"name", String, .text, none⟩, ⟨"entry_address", UInt64, .word, none⟩,
    ⟨"instructions", List Instruction, .list Instruction.codec, none⟩,
    ⟨"frame_size", UInt64, .word, none⟩, ⟨"callees", List Nat, .list .count, none⟩]

def codec : Codec Routine :=
  .record fields
    (fun (name, entry, body, frame, callees, ()) ↦ ⟨name, entry, body, frame, callees⟩)
    (fun r ↦ (r.name, r.entry, r.body, r.frame, r.callees, ()))

end StackDepth.Routine
