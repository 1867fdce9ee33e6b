import StackDepth.Plan
import StackDepth.Report

namespace StackDepth

structure QueryFailure where
  entry : String
  cycle : Cycle
  deriving DecidableEq, Repr

def QueryFailure.message (f : QueryFailure) : String :=
  s!"Failed to measure stack usage of {f.entry}"

structure PlanRun where
  output : String
  notices : List Notice
  failure : Option QueryFailure
  /-- Whether it was broken off at a line that is too wide. -/
  aborted : Bool

namespace Plan

def runFrom (p : Program) (output : String) (notices : List Notice) : List String → PlanRun
  | [] => ⟨output, notices, none, false⟩
  | entry :: queries =>
    let e := p.evaluate entry
    match e.outcome with
    | .error cycle => ⟨output, notices ++ e.notices, some ⟨entry, cycle⟩, false⟩
    | .ok m =>
      if m.isTooWide then ⟨output ++ m.report, notices ++ e.notices, none, true⟩
      else runFrom p (output ++ m.report) (notices ++ e.notices) queries

def run (plan : Plan) (p : Program) : PlanRun :=
  runFrom p "" [] plan.queries

end Plan

end StackDepth
