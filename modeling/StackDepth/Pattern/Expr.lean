import StackDepth.Pattern.Look

namespace StackDepth.Pattern

open Text (CharSet)

inductive Expr where
  | empty
  | text (chars : List Char)
  | one (of : CharSet) (asBytes : Bool)
  | look (condition : Look)
  | sequence (parts : List Expr)
  | choice (branches : List Expr)
  | repetition (least : Nat) (most : Option Nat) (lazy : Bool) (body : Expr)
  | capture (body : Expr)

def merge : List Nat → List Nat → List Nat
  | [], js => js
  | is, [] => is
  | i :: is, j :: js =>
    if i < j then i :: merge is (j :: js)
    else if j < i then j :: merge (i :: is) js
    else i :: merge is js
termination_by is js => is.length + js.length

/-- Takes places on a number of times. Once they stay the same they stay so for ever. -/
def exactly (next : List Nat → List Nat) : Nat → List Nat → List Nat
  | 0, places => places
  | n + 1, places =>
    let after := next places
    if after == places then places else exactly next n after

def upTo (next : List Nat → List Nat) : Nat → List Nat → List Nat
  | 0, places => places
  | n + 1, places =>
    let after := merge places (next places)
    if after == places then places else upTo next n after

def standsAt (text : Array Char) : List Char → Nat → Bool
  | [], _ => true
  | c :: cs, i => text[i]? == some c && standsAt text cs (i + 1)

namespace Expr

mutual

/-- The places at which a match may end that begins at one of `starts`. -/
def ends (text : Array Char) : Expr → List Nat → List Nat
  | .empty, starts => starts
  | .text chars, starts =>
    (starts.filter (standsAt text chars)).map (· + chars.length)
  | .one s _, starts => starts.filterMap fun i ↦
    if text[i]?.any s.contains then some (i + 1) else none
  | .look condition, starts => starts.filter fun i ↦
    condition.holds (if i = 0 then none else text[i - 1]?) text[i]?
  | .sequence parts, starts => endsInTurn text parts starts
  | .choice branches, starts => endsOfAny text branches starts
  | .repetition least most _ body, starts =>
    let first := exactly (body.ends text) least starts
    let more := most.elim (text.size + 1) fun most ↦ min (most - least) (text.size + 1)
    upTo (body.ends text) more first
  | .capture body, starts => body.ends text starts

def endsInTurn (text : Array Char) : List Expr → List Nat → List Nat
  | [], starts => starts
  | e :: es, starts => endsInTurn text es (e.ends text starts)

def endsOfAny (text : Array Char) : List Expr → List Nat → List Nat
  | [], _ => []
  | e :: es, starts => merge (e.ends text starts) (endsOfAny text es starts)

end

def occursIn (e : Expr) (text : List Char) : Bool :=
  !(e.ends text.toArray (List.range (text.length + 1))).isEmpty

end Expr

end StackDepth.Pattern
