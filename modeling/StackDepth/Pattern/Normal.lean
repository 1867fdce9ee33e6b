import StackDepth.Pattern.Expr

namespace StackDepth.Pattern

open Text (CharSet)

namespace Expr

mutual

def leastLength : Expr → Option Nat
  | .empty | .look _ => some 0
  | .text chars => some chars.length
  | .one s _ => if s.runs.isEmpty then none else some 1
  | .sequence parts => leastInTurn parts
  | .choice [] => none
  | .choice (e :: es) => do leastOfAny es (← e.leastLength)
  | .repetition least _ _ body => body.leastLength.map (least * ·)
  | .capture body => body.leastLength

def leastInTurn : List Expr → Option Nat
  | [] => some 0
  | e :: es => do return (← e.leastLength) + (← leastInTurn es)

def leastOfAny : List Expr → Nat → Option Nat
  | [], n => some n
  | e :: es, n => do leastOfAny es (min n (← e.leastLength))

end

mutual

def isVoid : Expr → Bool
  | .empty | .look _ => true
  | .text chars => chars.isEmpty
  | .one .. => false
  | .sequence parts => areVoid parts
  | .choice branches => areVoid branches
  | .repetition _ most _ body => most == some 0 || (most.isSome && body.isVoid)
  | .capture body => body.isVoid

def areVoid : List Expr → Bool
  | [] => true
  | e :: es => e.isVoid && areVoid es

end

mutual

/-- Whether two expressions are written alike. No two groups are, since each has its own number. -/
def isLike : Expr → Expr → Bool
  | .empty, .empty => true
  | .text cs, .text ds => cs == ds
  | .one s asBytes, .one t asBytes' => s == t && asBytes == asBytes'
  | .look l, .look m => l == m
  | .sequence es, .sequence fs => areLike es fs
  | .choice es, .choice fs => areLike es fs
  | .repetition least most lazy e, .repetition least' most' lazy' f =>
    least == least' && most == most' && lazy == lazy' && e.isLike f
  | _, _ => false

def areLike : List Expr → List Expr → Bool
  | [], [] => true
  | e :: es, f :: fs => e.isLike f && areLike es fs
  | _, _ => false

end

def nothing : Expr := .one .empty true

def ofSet (asBytes : Bool) (s : CharSet) : Expr :=
  match s.runs with
  | [] => nothing
  | [(first, last)] => if first = last then .text [Char.ofNat first] else .one s asBytes
  | _ => .one s asBytes

def parts : Expr → List Expr
  | .empty => []
  | .sequence parts => parts
  | e => [e]

/-- Puts an expression before others; a text joins the one that follows. -/
def before : Expr → List Expr → List Expr
  | .text cs, .text ds :: es => .text (cs ++ ds) :: es
  | e, es => e :: es

def inTurn (es : List Expr) : Expr :=
  match (es.flatMap parts).foldr before [] with
  | [] => .empty
  | [e] => e
  | parts => .sequence parts

def branches : Expr → List Expr
  | .choice branches => branches
  | e => [e]

def char? : Expr → Option Char
  | .text [c] => some c
  | _ => none

def set? : Expr → Option CharSet
  | .one s _ => some s
  | _ => none

def oneOf (es : List Expr) : Expr :=
  match es.flatMap branches with
  | [] => nothing
  | [e] => e
  | branches =>
    match branches.mapM char?, branches.mapM set? with
    | some cs, _ => ofSet false (.ofRuns (cs.map fun c ↦ (c.toNat, c.toNat)))
    | none, some sets => ofSet false (.ofRuns (sets.flatMap CharSet.runs))
    | none, none => .choice branches

def common : List Expr → List Expr → List Expr
  | e :: es, f :: fs => if e.isLike f then e :: common es fs else []
  | _, _ => []

def commonParts : List Expr → List Expr
  | [] | [_] => []
  | .sequence parts :: es => es.foldl (fun shared e ↦
      match e with
      | .sequence parts => common shared parts
      | _ => []) parts
  | _ => []

/-- One of several expressions, with what all of them begin with in front of the choice. -/
def either (es : List Expr) : Expr :=
  let branches := es.flatMap branches
  let shared := commonParts branches
  if shared.isEmpty then oneOf branches
  else inTurn (shared ++ [oneOf (branches.map fun e ↦ inTurn (e.parts.drop shared.length))])

/-- An expression a number of times. What matches only the empty text need not be repeated. -/
def times (least : Nat) (most : Option Nat) (lazy : Bool) (e : Expr) : Expr :=
  let (least, most) := if e.isVoid then (min least 1, some (min (most.getD 1) 1)) else (least, most)
  if most = some 0 then .empty
  else if least = 1 ∧ most = some 1 then e
  else .repetition least most lazy e

mutual

def isAnchored : Expr → Bool
  | .look l => l == .textStart
  | .empty | .text _ | .one .. => false
  | .sequence parts => isAnchoredInTurn parts
  | .choice branches => areAnchored branches
  | .repetition least _ _ body => 0 < least && body.isAnchored
  | .capture body => body.isAnchored

def isAnchoredInTurn : List Expr → Bool
  | [] => false
  | e :: es => e.isAnchored || (e.isVoid && isAnchoredInTurn es)

def areAnchored : List Expr → Bool
  | [] => true
  | e :: es => e.isAnchored && areAnchored es

end

mutual

def isAnchoredAtEnd : Expr → Bool
  | .look l => l == .textStop
  | .empty | .text _ | .one .. => false
  | .sequence parts => (isAnchoredAtEndInTurn parts).1
  | .choice branches => areAnchoredAtEnd branches
  | .repetition least _ _ body => 0 < least && body.isAnchoredAtEnd
  | .capture body => body.isAnchoredAtEnd

def isAnchoredAtEndInTurn : List Expr → Bool × Bool
  | [] => (false, true)
  | e :: es =>
    let (anchored, void) := isAnchoredAtEndInTurn es
    (anchored || (void && e.isAnchoredAtEnd), void && e.isVoid)

def areAnchoredAtEnd : List Expr → Bool
  | [] => true
  | e :: es => e.isAnchoredAtEnd && areAnchoredAtEnd es

end

end Expr

end StackDepth.Pattern
