import StackDepth.Pattern.Escape
import StackDepth.Text.Ascii

namespace StackDepth.Pattern

open Scanner

structure Items where
  span : Span
  items : List Item

namespace Items

def empty (p : Position) : Items := ⟨.point p, []⟩

def push (u : Items) (i : Item) : Items :=
  ⟨⟨if u.items.isEmpty then i.span.start else u.span.start, i.span.stop⟩, u.items ++ [i]⟩

def item (u : Items) : Item :=
  match u.items with
  | [] => .empty u.span
  | [i] => i
  | items => .union u.span items

end Items

inductive Enclosing where
  | bracket (outer : Items) (span : Span) (negated : Bool)
  | operand (operation : SetOperation) (left : Item)

def closeOperation (right : Item) : List Enclosing → Item × List Enclosing
  | .operand operation left :: enclosing =>
    (.operation ⟨left.span.start, right.span.stop⟩ operation left right, enclosing)
  | enclosing => (right, enclosing)

def openBracket? : List Enclosing → Option Span
  | [] => none
  | .bracket _ span _ :: _ => some span
  | .operand .. :: enclosing => openBracket? enclosing

def failUnclosed {α : Type} (enclosing : List Enclosing) : Scanner α := do
  fail .setUnclosed ((openBracket? enclosing).getD (← point))

def asciiClass? : Scanner (Option Item) := do
  let back ← get
  let start ← here
  let _ ← bumpIf "[:"
  let negated ← bumpIf "^"
  let name ← takeWhile (· != ':') bump
  let closed ← bumpIf ":]"
  match Text.Ascii.classes.lookup (String.ofList name) with
  | some members =>
    if closed && "[:".toList.isPrefixOf back.rest then
      return some (.ascii (← spanSince start) negated members)
    else
      set back
      return none
  | none =>
    set back
    return none

def hyphens (start : Position) (u : Items) : Scanner Items :=
  iterate (fun u ↦ do
    if (← char?) = some '-' then
      let hyphen := Item.literal ⟨← charSpan, '-', false⟩
      bumpBlanks
      if ← atEnd then fail .setUnclosed (.point start)
      return some (u.push hyphen)
    else return none) u

/-- The beginning of a set, from its bracket on, within other sets. A closing bracket that comes
first stands for itself. -/
def openSet (outer : Items) : Scanner (Items × Enclosing) := do
  let start ← here
  let unclosed : Scanner Unit := do
    if ← atEnd then fail .setUnclosed (← spanSince start)
  bumpBlanks
  unclosed
  let negated := (← char?) = some '^'
  if negated then
    bumpBlanks
    unclosed
  let mut u ← hyphens start (.empty (← here))
  if u.items.isEmpty && (← char?) = some ']' then
    u := u.push (.literal ⟨← charSpan, ']', false⟩)
    bumpBlanks
    unclosed
  return (u, .bracket outer (← spanSince start) negated)

def setPrimitive : Scanner Tree := do
  match ← char? with
  | some '\\' => escape
  | some c =>
    let span ← charSpan
    bump
    return .literal ⟨span, c, false⟩
  | none => return .empty (← point)

def itemOf : Tree → Scanner Item
  | .literal l => return .literal l
  | .letter span negated which => return .letter span negated which
  | .property span negated name => return .property span negated name
  | t => fail .setEscape t.span

def literalOf : Tree → Scanner Literal
  | .literal l => return l
  | t => fail .rangeEnd t.span

/-- A single item, or a range of characters. A hyphen before a closing bracket or before another
hyphen makes no range. -/
def rangeOrItem (enclosing : List Enclosing) : Scanner Item := do
  let left ← setPrimitive
  skipBlanks
  if ← atEnd then failUnclosed enclosing
  let second := (← get).second?
  if (← char?) ≠ some '-' || second = some ']' || second = some '-' then itemOf left
  else
    bumpBlanks
    if ← atEnd then failUnclosed enclosing
    let right ← setPrimitive
    let span : Span := ⟨left.span.start, right.span.stop⟩
    let first ← literalOf left
    let last ← literalOf right
    if last.char < first.char then fail .rangeOrder span
    return .range span first last

/-- A set while it is read: the items of the innermost one and what is around it, or the whole. -/
inductive SetState where
  | within (items : Items) (enclosing : List Enclosing)
  | whole (span : Span) (negated : Bool) (body : Item)

def closeSet (u : Items) (enclosing : List Enclosing) : Scanner SetState := do
  bump
  let (body, enclosing) := closeOperation u.item enclosing
  match enclosing with
  | .bracket outer span negated :: enclosing =>
    let span : Span := ⟨span.start, ← here⟩
    if enclosing.isEmpty then return .whole span negated body
    else return .within (outer.push (.bracketed span negated body)) enclosing
  | _ => return .whole u.span false body

def operators : List (String × SetOperation) :=
  [("&&", .inter), ("--", .diff), ("~~", .symmDiff)]

def operator? : Scanner (Option SetOperation) := do
  let rest := (← get).rest
  match operators.find? fun o ↦ o.1.toList.isPrefixOf rest with
  | some (mark, operation) =>
    let _ ← bumpIf mark
    return some operation
  | none => return none

def setStep : SetState → Scanner (Option SetState)
  | .whole .. => return none
  | .within u enclosing => do
    skipBlanks
    match ← char? with
    | none => failUnclosed enclosing
    | some ']' => return some (← closeSet u enclosing)
    | some '[' =>
      match ← asciiClass? with
      | some i => return some (.within (u.push i) enclosing)
      | none =>
        let (inner, bracket) ← openSet u
        return some (.within inner (bracket :: enclosing))
    | some _ =>
      match ← operator? with
      | some operation =>
        let (left, enclosing) := closeOperation u.item enclosing
        return some (.within (.empty (← here)) (.operand operation left :: enclosing))
      | none => return some (.within (u.push (← rangeOrItem enclosing)) enclosing)

def bracketedSet : Scanner Tree := do
  let (u, bracket) ← openSet (.empty (← here))
  match ← iterate setStep (.within u [bracket]) with
  | .whole span negated body => return .bracketed span negated body
  | .within _ enclosing => failUnclosed enclosing

end StackDepth.Pattern
