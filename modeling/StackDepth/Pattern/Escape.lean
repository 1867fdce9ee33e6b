import StackDepth.Pattern.Scanner
import StackDepth.Pattern.Tree

namespace StackDepth.Pattern

open Scanner

def isMeta (c : Char) : Bool := "\\.+*?()|[]\x7b\x7d^$#&-~".toList.contains c

/-- Whether a backslash before a character stands for the character itself. -/
def isEscapable (c : Char) : Bool :=
  isMeta c || (c.toNat < 0x80 && !c.isAlphanum && c != '<' && c != '>')

def charOfCode? (code : Nat) : Option Char :=
  if code.isValidChar then some (Char.ofNat code) else none

def fixedDigits : (count : Nat) → Scanner (List Char)
  | 0 => return []
  | count + 1 => do
    match ← char? with
    | none => fail .escapeEnd (← point)
    | some c =>
      if !Text.isHex c then fail .hexDigit (← charSpan)
      bumpBlanks
      return c :: (← fixedDigits count)

def fixedHex (start : Position) (count : Nat) : Scanner Tree := do
  let first ← here
  let digits ← fixedDigits count
  match charOfCode? (Text.CharSet.codeOfHex digits) with
  | none => fail .hexValue (← spanSince first)
  | some c => return .literal ⟨← spanSince start, c, count == 2⟩

def bracedHex (start : Position) : Scanner Tree := do
  let brace ← here
  let first := (← charSpan).stop
  let digits ← iterate (fun digits ↦ do
    bumpBlanks
    match ← char? with
    | none => return none
    | some c =>
      if c = '\x7d' then return none
      else if Text.isHex c then return some (digits ++ [c])
      else fail .hexDigit (← charSpan)) []
  if ← atEnd then fail .escapeEnd (← spanSince brace)
  let last ← here
  bumpBlanks
  if digits.isEmpty then fail .hexEmpty (← spanSince brace)
  match charOfCode? (Text.CharSet.codeOfHex digits) with
  | none => fail .hexValue ⟨first, last⟩
  | some c => return .literal ⟨← spanSince start, c, false⟩

def hex (start : Position) (count : Nat) : Scanner Tree := do
  bumpBlanks
  match ← char? with
  | none => fail .escapeEnd (← point)
  | some '\x7b' => bracedHex start
  | some _ => fixedHex start count

def PropertyName.ofText (name : List Char) : PropertyName :=
  let valued (r : List Char × List Char) : PropertyName :=
    .valued (String.ofList r.1) (String.ofList r.2)
  match Text.cutOn? "!=".toList name with
  | some r => valued r
  | none =>
    match Text.cut? (· == ':') name with
    | some r => valued r
    | none =>
      match Text.cut? (· == '=') name with
      | some r => valued r
      | none => .named (String.ofList name)

def isUnequal (name : List Char) : Bool := (Text.cutOn? "!=".toList name).isSome

def propertyClass (start : Position) (negated : Bool) : Scanner Tree := do
  bumpBlanks
  match ← char? with
  | none => fail .escapeEnd (← point)
  | some '\x7b' =>
    let name ← iterate (fun name ↦ do
      bumpBlanks
      match ← char? with
      | none => return none
      | some c => return if c = '\x7d' then none else some (name ++ [c])) []
    if ← atEnd then fail .escapeEnd (← point)
    bump
    return .property (← spanSince start) (negated != isUnequal name) (.ofText name)
  | some c =>
    if c = '\\' then fail .propertyLetter (← charSpan)
    bumpBlanks
    return .property (← spanSince start) negated (.named (String.singleton c))

def isBoundaryLetter (c : Char) : Bool := c.isAlpha || c == '-'

/-- The edge that is named in braces after a word boundary. Where the braces do not begin with a
letter they hold the count of a repetition, and the cursor stays. -/
def namedEdge? (start : Position) : Scanner (Option WordEdge) := do
  let back ← get
  let brace ← here
  bumpBlanks
  match ← char? with
  | none => fail .boundaryEnd (← spanSince start)
  | some c =>
    if !isBoundaryLetter c then
      set back
      return none
    let first ← here
    let name ← takeWhile isBoundaryLetter bumpBlanks
    if (← char?) ≠ some '\x7d' then fail .boundaryUnclosed (← spanSince brace)
    let last ← here
    bump
    let names := [("start", WordEdge.start), ("end", .stop), ("start-half", .startHalf),
      ("end-half", .stopHalf)]
    match names.lookup (String.ofList name) with
    | some edge => return some edge
    | none => fail .boundaryUnknown ⟨first, last⟩

def boundary (start : Position) : Scanner Tree := do
  if (← char?) = some '\x7b' then
    match ← namedEdge? start with
    | some edge => return .assertion (← spanSince start) (.word edge)
    | none => return .assertion (← spanSince start) (.word .boundary)
  else return .assertion (← spanSince start) (.word .boundary)

def controls : List (Char × Char) :=
  [('a', '\x07'), ('f', '\x0c'), ('t', '\t'), ('n', '\n'), ('r', '\r'), ('v', '\x0b')]

def assertions : List (Char × Assertion) :=
  [('A', .textStart), ('z', .textStop), ('B', .word .noBoundary), ('<', .word .start),
    ('>', .word .stop)]

def letterClasses : List (Char × LetterClass) :=
  [('d', .digit), ('s', .space), ('w', .word)]

def escape : Scanner Tree := do
  let start ← here
  bump
  match ← char? with
  | none => fail .escapeEnd (← spanSince start)
  | some c =>
    if c.isDigit then fail .backreference ⟨start, (← charSpan).stop⟩
    else if c = 'x' then hex start 2
    else if c = 'u' then hex start 4
    else if c = 'U' then hex start 8
    else if c = 'p' || c = 'P' then propertyClass start (c = 'P')
    else
      bump
      let span ← spanSince start
      match letterClasses.lookup c.toLower with
      | some which => return .letter span c.isUpper which
      | none =>
        if isEscapable c then return .literal ⟨span, c, false⟩
        else if c = 'b' then boundary start
        else match controls.lookup c, assertions.lookup c with
          | some control, _ => return .literal ⟨span, control, false⟩
          | none, some assertion => return .assertion span assertion
          | none, none => fail .escapeUnknown span

end StackDepth.Pattern
