import StackDepth.Program

namespace StackDepth

/-- A chain that has a name left. -/
structure OpenChain where
  first : String
  rest : Chain
  deriving DecidableEq, Repr

def OpenChain.chain (c : OpenChain) : Chain := c.first :: c.rest

def Chain.opened? : Chain → Option OpenChain
  | [] => none
  | first :: rest => some ⟨first, rest⟩

/-- The chains that count at some point of a path of calls. -/
structure HintContext where
  opened : List OpenChain
  deriving DecidableEq, Repr

structure Resolution where
  callees : List Nat
  context : HintContext
  notices : List Notice
  deriving DecidableEq, Repr

def Program.hinted? (p : Program) (name : String) : Option Nat :=
  (p.lookup name).id?

def Program.hintNotices (p : Program) (name : String) : List Notice :=
  match p.lookup name with
  | .missing => [.unknownHint name]
  | lookup => lookup.notices name

namespace HintContext

def root (hints : List Chain) : HintContext := ⟨hints.filterMap Chain.opened?⟩

def chains (context : HintContext) : List Chain := context.opened.map OpenChain.chain

theorem chains_root (hints : List Chain) :
    (root hints).chains = hints.filter fun chain ↦ !chain.isEmpty := by
  induction hints with
  | nil => rfl
  | cons chain hints ih =>
    cases chain with
    | nil => exact ih
    | cons first rest => exact congrArg ((first :: rest) :: ·) ih

def rests (context : HintContext) (name : String) : List Chain :=
  context.opened.filterMap fun c ↦ if c.first = name then some c.rest else none

def successors (context : HintContext) (name : String) : List String :=
  (context.rests name).filterMap List.head?

/-- Enters a routine. Where no chain begins with its name the context stays as it is, and elsewhere
only what is left of such chains counts below. -/
def resolve (context : HintContext) (p : Program) (name : String) : Resolution :=
  let rests := context.rests name
  if rests.isEmpty then { callees := [], context, notices := [] }
  else
    { callees := (context.successors name).filterMap p.hinted?
      context := .root rests
      notices := (context.successors name).flatMap p.hintNotices }

end HintContext

end StackDepth
