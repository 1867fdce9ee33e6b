import StackDepth.Measurement
import StackDepth.Text.Utf8

namespace StackDepth

def widestIndent : Nat := 0xFFFF

namespace TraceStep

/-- Four blanks for each level of depth, as a word. -/
def indent (s : TraceStep) : Nat := (4 * UInt64.ofNat s.depth).toNat

def isTooWide (s : TraceStep) : Bool := widestIndent < s.indent

def line (s : TraceStep) : String :=
  String.ofList (List.replicate s.indent ' ') ++ s!"stack: {s.name} {s.frame.toNat} bytes"

end TraceStep

namespace Measurement

def summary (m : Measurement) : String :=
  s!"stack {m.entry} = {m.bytes.toNat}"

def isTooWide (m : Measurement) : Bool := m.trace.any TraceStep.isTooWide

/-- The lines of a measurement, or those before the first that would be too wide. -/
def lines (m : Measurement) : List String :=
  if m.isTooWide then (m.trace.takeWhile (!·.isTooWide)).map TraceStep.line
  else m.trace.map TraceStep.line ++ [m.summary]

def report (m : Measurement) : String :=
  String.join (m.lines.map (· ++ "\n"))

end Measurement

structure Sink where
  room : Nat
  written : List UInt8
  deriving DecidableEq, Repr

namespace Sink

def fullReason : String := "writer is full"

def write (sink : Sink) (bytes : List UInt8) : Sink × Bool :=
  (⟨sink.room - bytes.length, sink.written ++ bytes.take sink.room⟩, bytes.length ≤ sink.room)

def writeAll : Sink → List String → Sink × Bool
  | sink, [] => (sink, true)
  | sink, text :: texts =>
    match sink.write (Utf8.encode text.toList) with
    | (sink, true) => sink.writeAll texts
    | (sink, false) => (sink, false)

end Sink

inductive Ending where
  | complete
  | full
  | tooWide
  deriving DecidableEq, Repr

def Measurement.writeTo (m : Measurement) (sink : Sink) : Sink × Ending :=
  match sink.writeAll (m.lines.map (· ++ "\n")) with
  | (sink, true) => (sink, if m.isTooWide then .tooWide else .complete)
  | (sink, false) => (sink, .full)

end StackDepth
