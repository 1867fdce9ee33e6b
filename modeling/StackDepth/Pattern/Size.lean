import StackDepth.Pattern.Beginning
import StackDepth.Pattern.Encoding
import Std.Data.HashMap

namespace StackDepth.Pattern

open Text (CharSet)

/-- What is laid out of an automaton: its states, which are numbered from zero, and the bytes that
their ways take beside them. -/
structure Layout where
  states : Nat
  ways : Nat

def stateSize : Nat := 32

def branchSize : Nat := 4

def transitionSize : Nat := 8

def sizeLimit : Nat := 10 * 1048576

namespace Layout

def size (l : Layout) : Nat := l.states * stateSize + l.ways

def add (l m : Layout) : Layout := ⟨l.states + m.states, l.ways + m.ways⟩

end Layout

abbrev Builder := StateT Layout Option

def addStates (count ways : Nat) : Builder Nat := fun l ↦
  let next := l.add ⟨count, ways⟩
  if next.size ≤ sizeLimit then some (l.states, next) else none

def addState : Builder Nat := addStates 1 0

def addBranches (count : Nat) : Builder Unit := do
  let _ ← addStates 0 (count * branchSize)

/-- What is known of the end of a part that has been laid out: whether its last state has several
ways, to which the one to the next part is added. -/
abbrev Forks := Bool

def follow (forks : Forks) : Builder Unit := if forks then addBranches 1 else pure ()

def single : Builder Forks := do
  let _ ← addState
  return false

inductive Direction where
  | forward
  | backward
  deriving DecidableEq, Repr

def Direction.order {α : Type} (l : List α) : Direction → List α
  | .forward => l
  | .backward => l.reverse

section Copies

variable (part : Builder Forks)

def copiesAfter : Nat → Forks → Builder Forks
  | 0, forks => return forks
  | n + 1, forks => do
    let next ← part
    follow forks
    copiesAfter n next

def copies : Nat → Builder Forks
  | 0 => single
  | n + 1 => do copiesAfter part n (← part)

def optionalAfter : Nat → Forks → Builder Forks
  | 0, forks => return forks
  | n + 1, forks => do
    let _ ← addState
    let next ← part
    follow forks
    addBranches 2
    optionalAfter n next

/-- Some copies or none. A part that may match the empty text is entered first and then left out,
so that its own matches are preferred. -/
def anyNumber (nullable : Bool) : Builder Forks := do
  if nullable then
    follow (← part)
    let _ ← addStates 3 0
    addBranches 4
    return false
  else
    let _ ← addState
    follow (← part)
    addBranches 1
    return true

def atLeast (nullable : Bool) : Nat → Builder Forks
  | 0 => anyNumber part nullable
  | n + 1 => do
    let forks ← copies part (n + 1)
    let _ ← addState
    follow forks
    addBranches 1
    return true

def optional : Builder Forks := do
  let _ ← addState
  let forks ← part
  let _ ← addState
  addBranches 2
  follow forks
  return false

def between (least most : Nat) : Builder Forks := do
  let forks ← copies part least
  if least = most then return forks
  let _ ← addState
  follow (← optionalAfter part (most - least) forks)
  return false

end Copies

def placeOf (count : Nat) (numbers : List UInt64) : Nat :=
  (numbers.foldl (fun h n ↦ (h ^^^ n) * 0x100000001B3) 0xCBF29CE484222325).toNat % count

/-- Numbers of states by what leads out of them. A place holds the last state put there, so a
state may be laid out again. -/
abbrev Known (α : Type) := Std.HashMap Nat (α × Nat)

def known {α : Type} [BEq α] (place : Nat) (key : α) (ways : Nat) :
    StateT (Known α) Builder Nat := do
  match (← get)[place]? with
  | some (other, state) => if other == key then return state
  | none => pure ()
  let state ← addStates 1 ways
  modify (·.insert place (key, state))
  return state

abbrev Transitions := List (UInt8 × UInt8 × Nat)

def Transitions.place (ts : Transitions) : Nat :=
  placeOf 10000 (ts.flatMap fun t ↦ [t.1.toUInt64, t.2.1.toUInt64, t.2.2.toUInt64])

def leadingTo (last : Nat) : Nat → List ByteRuns → StateT (Known Transitions) Builder Nat
  | 0, _ => return last
  | length + 1, encodings => do
    let ts ← (encodings.splitBy fun r t ↦ r.head? == t.head?).mapM fun alike ↦ do
      let (first, end_) := (alike.head?.bind List.head?).getD (0, 0)
      let rests := alike.map List.tail
      let next ← if rests.all List.isEmpty then pure last else leadingTo last length rests
      return (first, end_, next)
    known (Transitions.place ts) ts (ts.length * transitionSize)

/-- The states for encodings read from their last byte on, from the one that an encoding ends in.
Those that end alike share states. -/
def leadingBack (last : Nat) (encoding : ByteRuns) :
    StateT (Known (Nat × UInt8 × UInt8)) Builder Nat :=
  encoding.foldlM (fun state r ↦
    known (placeOf 1000 [state.toUInt64, r.1.toUInt64, r.2.toUInt64]) (state, r) 0) last

def setPart (d : Direction) (s : CharSet) : Builder Forks := do
  if s.isAscii then
    let _ ← addStates 2 (s.runs.length * transitionSize)
  else match d with
    | .forward =>
      let last ← addState
      let _ ← (leadingTo last 4 (encodings s)).run ∅
    | .backward =>
      let first ← addStates 2 0
      let encodings := encodings s
      let _ ← (encodings.forM fun encoding ↦ do
        let _ ← leadingBack (first + 1) encoding
        addBranches 1).run ∅
  return false

def anyByte : Builder Forks := do
  let _ ← addStates 2 transitionSize
  return false

def betweenEmpty {α : Type} (ls : List (List α)) : List (List (List α)) :=
  (ls.splitBy fun l m ↦ l.isEmpty == m.isEmpty).filter (!·.all List.isEmpty)

def countEnds {α : Type} (ls : List (List α)) : Nat :=
  let late := (ls.dropWhile List.isEmpty).filter List.isEmpty
  late.length + if ls.head?.any List.isEmpty then 1 else 0

/-- The layout of the tree of some texts, of which the longest has the given length. Texts share a
way as long as they begin alike, unless one of them ends between the two. -/
def treeLayout : Nat → List (List UInt8) → Layout
  | 0, _ => ⟨0, 0⟩
  | length + 1, texts =>
    if texts.all List.isEmpty then ⟨0, 0⟩
    else
      let groups := betweenEmpty texts
      let layouts := groups.map fun group ↦
        let bytes := (group.filterMap List.head?).eraseDups
        let below := bytes.map fun b ↦
          treeLayout length ((group.filter (·.head? == some b)).map List.tail)
        let ways := if bytes.length = 1 then 0 else bytes.length * transitionSize
        below.foldl Layout.add ⟨1, ways⟩
      layouts.foldl Layout.add ⟨1, (groups.length + countEnds texts) * branchSize⟩

def textsPart (d : Direction) (texts : List (List Char)) : Builder Forks := do
  let texts := texts.map fun chars ↦ d.order (Utf8.encode chars)
  let longest := (texts.map List.length).foldl max 0
  let tree := treeLayout longest texts
  let _ ← addStates (tree.states + 1) tree.ways
  return false

def choicePart (branches : List (Builder Forks)) : Builder Forks := do
  match branches with
  | [] => single
  | [part] => part
  | first :: second :: rest =>
    let forks ← first
    let forks' ← second
    let _ ← addStates 2 0
    addBranches 2
    follow forks
    follow forks'
    for part in rest do
      let forks ← part
      addBranches 1
      follow forks
    return false

def partsInTurn : List (Builder Forks) → Builder Forks
  | [] => single
  | first :: rest => do
    rest.foldlM (fun forks part ↦ do
      let next ← part
      follow forks
      return next) (← first)

namespace Expr

mutual

def part (d : Direction) : Expr → Builder Forks
  | .empty | .look _ => single
  | .text chars => do
    let _ ← addStates (Utf8.encode chars).length 0
    return false
  | .one s _ => setPart d s
  | .sequence es => partsInTurn (d.order (partsOf d es))
  | .choice es =>
    match es.mapM text? with
    | some texts => textsPart d texts
    | none => choicePart (partsOf d es)
  | .repetition least most _ body =>
    match least, most with
    | 0, some 1 => optional (body.part d)
    | least, none => atLeast (body.part d) (body.leastLength.all (· == 0)) least
    | least, some most => between (body.part d) least most
  | .capture body =>
    match d with
    | .forward => do
      let _ ← addState
      let forks ← body.part d
      let _ ← addState
      follow forks
      return false
    | .backward => body.part d

def partsOf (d : Direction) : List Expr → List (Builder Forks)
  | [] => []
  | e :: es => e.part d :: partsOf d es

end

/-- Lays out the automaton of a pattern: the way over the text before a match, unless every match
begins there, then the pattern as a group and the state at its end. -/
def automaton (d : Direction) (e : Expr) : Builder Unit := do
  let anchored := match d with
    | .forward => e.isAnchored
    | .backward => e.isAnchoredAtEnd
  let skip ← if anchored then single else anyNumber anyByte false
  follow (← (Expr.capture e).part d)
  let _ ← addState
  follow skip

def fits (e : Expr) : Bool :=
  e.isSearchedAsTexts ||
    [Direction.forward, .backward].all fun d ↦ ((e.automaton d).run ⟨0, 0⟩).isSome

end Expr

end StackDepth.Pattern
