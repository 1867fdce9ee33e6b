import StackDepth.Json.Record
import StackDepth.Measurement

namespace StackDepth

open Json

namespace TraceStep

def fields : List Field :=
  [⟨"depth", Nat, .count, none⟩, ⟨"name", String, .text, none⟩,
    ⟨"frame_size", UInt64, .word, none⟩]

def codec : Codec TraceStep :=
  .record fields (fun (depth, name, frame, ()) ↦ ⟨depth, name, frame⟩)
    (fun s ↦ (s.depth, s.name, s.frame, ()))

end TraceStep

namespace Measurement

def fields : List Field :=
  [⟨"entry", String, .text, none⟩, ⟨"bytes", UInt64, .word, none⟩,
    ⟨"trace", List TraceStep, .list TraceStep.codec, none⟩]

def codec : Codec Measurement :=
  .record fields (fun (entry, bytes, trace, ()) ↦ ⟨entry, bytes, trace⟩)
    (fun m ↦ (m.entry, m.bytes, m.trace, ()))

end Measurement

end StackDepth
