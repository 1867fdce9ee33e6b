import StackDepth.Pattern.Flaw
import StackDepth.Pattern.Look

namespace StackDepth.Pattern

open Text (CharSet)

inductive Flag where
  | caseless
  | multiLine
  | dotAll
  | lazy
  | unicode
  | crlf
  | verbose
  deriving DecidableEq, Repr

abbrev FlagChange := List (Flag × Bool)

structure Literal where
  span : Span
  char : Char
  isByte : Bool
  deriving DecidableEq, Repr

inductive Assertion where
  | lineStart
  | lineStop
  | textStart
  | textStop
  | word (edge : WordEdge)
  deriving DecidableEq, Repr

inductive LetterClass where
  | digit
  | space
  | word
  deriving DecidableEq, Repr

inductive PropertyName where
  | named (name : String)
  | valued (name value : String)
  deriving DecidableEq, Repr

inductive SetOperation where
  | inter
  | diff
  | symmDiff
  deriving DecidableEq, Repr

inductive Item where
  | empty (span : Span)
  | literal (literal : Literal)
  | range (span : Span) (first last : Literal)
  | ascii (span : Span) (negated : Bool) (members : CharSet)
  | property (span : Span) (negated : Bool) (name : PropertyName)
  | letter (span : Span) (negated : Bool) (which : LetterClass)
  | bracketed (span : Span) (negated : Bool) (body : Item)
  | union (span : Span) (items : List Item)
  | operation (span : Span) (operation : SetOperation) (left right : Item)

def Item.span : Item → Span
  | .empty span | .range span .. | .ascii span .. | .property span .. | .letter span ..
  | .bracketed span .. | .union span _ | .operation span .. => span
  | .literal l => l.span

inductive Tree where
  | empty (span : Span)
  | flags (span : Span) (change : FlagChange)
  | literal (literal : Literal)
  | dot (span : Span)
  | assertion (span : Span) (assertion : Assertion)
  | property (span : Span) (negated : Bool) (name : PropertyName)
  | letter (span : Span) (negated : Bool) (which : LetterClass)
  | bracketed (span : Span) (negated : Bool) (body : Item)
  | repetition (span : Span) (least : Nat) (most : Option Nat) (lazy : Bool) (body : Tree)
  | group (span : Span) (captures : Bool) (change : FlagChange) (body : Tree)
  | choice (span : Span) (branches : List Tree)
  | sequence (span : Span) (parts : List Tree)

def Tree.span : Tree → Span
  | .empty span | .flags span _ | .dot span | .assertion span _ | .property span ..
  | .letter span .. | .bracketed span .. | .repetition span .. | .group span ..
  | .choice span _ | .sequence span _ => span
  | .literal l => l.span

/-- Fails at the part that is nested one deeper than the limit. -/
def enterAt (limit depth : Nat) (span : Span) : Except Flaw Nat :=
  if depth < limit then .ok (depth + 1) else .error ⟨.nesting limit, span, none⟩

mutual

def Item.checkDepth (limit depth : Nat) : Item → Except Flaw Unit
  | .bracketed span _ body => do body.checkDepth limit (← enterAt limit depth span)
  | .union span items => do checkItemDepths limit (← enterAt limit depth span) items
  | .operation span _ left right => do
    let depth ← enterAt limit depth span
    left.checkDepth limit depth
    right.checkDepth limit depth
  | _ => .ok ()

def checkItemDepths (limit depth : Nat) : List Item → Except Flaw Unit
  | [] => .ok ()
  | i :: is => do
    i.checkDepth limit depth
    checkItemDepths limit depth is

end

mutual

def Tree.checkDepth (limit depth : Nat) : Tree → Except Flaw Unit
  | .bracketed span _ body => do body.checkDepth limit (← enterAt limit depth span)
  | .repetition span _ _ _ body => do body.checkDepth limit (← enterAt limit depth span)
  | .group span _ _ body => do body.checkDepth limit (← enterAt limit depth span)
  | .choice span branches => do checkDepths limit (← enterAt limit depth span) branches
  | .sequence span parts => do checkDepths limit (← enterAt limit depth span) parts
  | _ => .ok ()

def checkDepths (limit depth : Nat) : List Tree → Except Flaw Unit
  | [] => .ok ()
  | t :: ts => do
    t.checkDepth limit depth
    checkDepths limit depth ts

end

end StackDepth.Pattern
