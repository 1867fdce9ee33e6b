import StackDepth.Walk

namespace StackDepth

structure Measurement where
  entry : String
  bytes : UInt64
  trace : List TraceStep
  deriving DecidableEq, Repr

/-- A call graph in which a routine can call itself, by the names along the way. -/
structure Cycle where
  path : List String
  deriving DecidableEq, Repr

def Cycle.message (c : Cycle) : String :=
  "cyclic call graph: " ++ " -> ".intercalate c.path

structure Evaluation where
  notices : List Notice
  outcome : Except Cycle Measurement

namespace Program

/-- Measures an entry point. A name that stands for no single routine needs no stack. -/
def evaluate (p : Program) (entry : String) : Evaluation :=
  let lookup := p.lookup entry
  match lookup.id? with
  | none => ⟨lookup.notices entry, .ok ⟨entry, 0, []⟩⟩
  | some id =>
    let w := p.walk [] (.root p.hints) id
    ⟨w.notices p,
      match w.outcome with
      | .error ids => .error ⟨ids.map p.nameOf⟩
      | .ok bytes => .ok ⟨entry, bytes, w.trace⟩⟩

def measure (p : Program) (entry : String) : Except Cycle Measurement :=
  (p.evaluate entry).outcome

end Program

end StackDepth
