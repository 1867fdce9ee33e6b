import StackDepth.Text.Cut

namespace StackDepth.Pattern

structure Position where
  offset : Nat
  line : Nat
  column : Nat
  deriving DecidableEq, Repr

def Position.after (p : Position) (c : Char) : Position :=
  if c = '\n' then ⟨p.offset + 1, p.line + 1, 1⟩ else ⟨p.offset + 1, p.line, p.column + 1⟩

structure Span where
  start : Position
  stop : Position
  deriving DecidableEq, Repr

namespace Span

def point (p : Position) : Span := ⟨p, p⟩

def isOneLine (s : Span) : Bool := s.start.line == s.stop.line

def le (s t : Span) : Bool :=
  s.start.offset < t.start.offset ||
    (s.start.offset == t.start.offset && s.stop.offset ≤ t.stop.offset)

end Span

inductive FlawKind where
  | setEscape
  | rangeOrder
  | rangeEnd
  | setUnclosed
  | decimal
  | hexEmpty
  | hexValue
  | hexDigit
  | escapeEnd
  | escapeUnknown
  | negationDangling
  | flagRepeated
  | negationRepeated
  | flagsEnd
  | flagUnknown
  | nameRepeated
  | nameEmpty
  | nameCharacter
  | nameEnd
  | groupUnclosed
  | groupUnopened
  | nesting (limit : Nat)
  | countOrder
  | countEmpty
  | countUnclosed
  | nothingRepeated
  | boundaryUnclosed
  | boundaryUnknown
  | boundaryEnd
  | propertyLetter
  | backreference
  | lookaround
  | unicodeOff
  | invalidUtf8
  | propertyUnknown
  | propertyValueUnknown
  deriving DecidableEq, Repr

def FlawKind.message : FlawKind → String
  | .setEscape => "invalid escape sequence found in character class"
  | .rangeOrder => "invalid character class range, the start must be <= the end"
  | .rangeEnd => "invalid range boundary, must be a literal"
  | .setUnclosed => "unclosed character class"
  | .decimal => "decimal literal invalid"
  | .hexEmpty => "hexadecimal literal empty"
  | .hexValue => "hexadecimal literal is not a Unicode scalar value"
  | .hexDigit => "invalid hexadecimal digit"
  | .escapeEnd => "incomplete escape sequence, reached end of pattern prematurely"
  | .escapeUnknown => "unrecognized escape sequence"
  | .negationDangling => "dangling flag negation operator"
  | .flagRepeated => "duplicate flag"
  | .negationRepeated => "flag negation operator repeated"
  | .flagsEnd => "expected flag but got end of regex"
  | .flagUnknown => "unrecognized flag"
  | .nameRepeated => "duplicate capture group name"
  | .nameEmpty => "empty capture group name"
  | .nameCharacter => "invalid capture group character"
  | .nameEnd => "unclosed capture group name"
  | .groupUnclosed => "unclosed group"
  | .groupUnopened => "unopened group"
  | .nesting limit => s!"exceed the maximum number of nested parentheses/brackets ({limit})"
  | .countOrder => "invalid repetition count range, the start must be <= the end"
  | .countEmpty => "repetition quantifier expects a valid decimal"
  | .countUnclosed => "unclosed counted repetition"
  | .nothingRepeated => "repetition operator missing expression"
  | .boundaryUnclosed =>
    "special word boundary assertion is either unclosed or contains an invalid character"
  | .boundaryUnknown =>
    "unrecognized special word boundary assertion, valid choices are: start, end, start-half " ++
      "or end-half"
  | .boundaryEnd =>
    "found either the beginning of a special word boundary or a bounded repetition on a \\b " ++
      "with an opening brace, but no closing brace"
  | .propertyLetter => "invalid Unicode character class"
  | .backreference => "backreferences are not supported"
  | .lookaround => "look-around, including look-ahead and look-behind, is not supported"
  | .unicodeOff => "Unicode not allowed here"
  | .invalidUtf8 => "pattern can match invalid UTF-8"
  | .propertyUnknown => "Unicode property not found"
  | .propertyValueUnknown => "Unicode property value not found"

/-- A fault, where it is, and the place that it conflicts with. -/
structure Flaw where
  kind : FlawKind
  span : Span
  other : Option Span := none
  deriving DecidableEq, Repr

namespace Flaw

def spans (f : Flaw) : List Span :=
  (f.span :: f.other.toList).mergeSort Span.le

/-- Marks under the spans of one line; an empty span has one mark too. -/
def marks (spans : List Span) : List Char :=
  spans.foldl (fun row s ↦
    row ++ List.replicate (s.start.column - 1 - row.length) ' ' ++
      List.replicate (max 1 (s.stop.column - s.start.column)) '^') []

def markedRow (label : String) (spans : List Span) (row : List Char) : String :=
  let shown := label ++ String.ofList row ++ "\n"
  if spans.isEmpty then shown
  else shown ++ String.ofList (List.replicate label.length ' ' ++ marks spans) ++ "\n"

def label (lines number : Nat) : String :=
  if lines ≤ 1 then "    "
  else
    let digits := toString number
    let padding := List.replicate ((toString lines).length - digits.length) ' '
    String.ofList padding ++ digits ++ ": "

def markedPattern (f : Flaw) (pattern : List Char) : String :=
  let rows := Text.rows pattern
  let lines := if pattern.getLast? = some '\n' then rows.length + 1 else rows.length
  String.join (rows.mapIdx fun i row ↦
    markedRow (label lines (i + 1))
      (f.spans.filter fun s ↦ s.isOneLine && s.start.line == i + 1) row)

def longSpans (f : Flaw) : String :=
  String.join ((f.spans.filter fun s ↦ !s.isOneLine).map fun s ↦
    s!"on line {s.start.line} (column {s.start.column}) through " ++
      s!"line {s.stop.line} (column {s.stop.column - 1})\n")

def report (f : Flaw) (pattern : List Char) : String :=
  let shown :=
    if '\n' ∈ pattern then
      let divider := String.ofList (List.replicate 79 '~') ++ "\n"
      divider ++ f.markedPattern pattern ++ divider ++ f.longSpans
    else f.markedPattern pattern
  "regex parse error:\n" ++ shown ++ "error: " ++ f.kind.message

end Flaw

end StackDepth.Pattern
