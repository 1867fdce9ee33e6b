import StackDepth.Pattern.Bracket

namespace StackDepth.Pattern

open Scanner

structure Parts where
  start : Position
  parts : List Tree

namespace Parts

def empty (p : Position) : Parts := ⟨p, []⟩

def push (s : Parts) (t : Tree) : Parts := ⟨s.start, s.parts ++ [t]⟩

def tree (s : Parts) (stop : Position) : Tree :=
  match s.parts with
  | [] => .empty ⟨s.start, stop⟩
  | [t] => t
  | parts => .sequence ⟨s.start, stop⟩ parts

def split? (s : Parts) : Option (Parts × Tree) :=
  match s.parts.getLast? with
  | none | some (.empty _) | some (.flags ..) => none
  | some t => some (⟨s.start, s.parts.dropLast⟩, t)

end Parts

inductive Surrounding where
  | group (outer : Parts) (span : Span) (captures : Bool) (change : FlagChange) (verbose : Bool)
  | branches (start : Position) (done : List Tree)

structure State where
  parts : Parts
  surroundings : List Surrounding
  names : List (String × Span)

def closeChoice (s : Parts) (stop : Position) : List Surrounding → Tree × List Surrounding
  | .branches start done :: surroundings =>
    (.choice ⟨start, stop⟩ (done ++ [s.tree stop]), surroundings)
  | surroundings => (s.tree stop, surroundings)

def nextBranch (s : State) : Scanner State := do
  let stop ← here
  let surroundings := match s.surroundings with
    | .branches start done :: surroundings =>
      .branches start (done ++ [s.parts.tree stop]) :: surroundings
    | surroundings => .branches s.parts.start [s.parts.tree stop] :: surroundings
  bump
  return { s with parts := .empty (← here), surroundings }

def flagLetters : List (Char × Flag) :=
  [('i', .caseless), ('m', .multiLine), ('s', .dotAll), ('U', .lazy), ('u', .unicode),
    ('R', .crlf), ('x', .verbose)]

/-- Flags while they are read: each with its place, none for the sign that negates the others. -/
abbrev FlagList := List (Option Flag × Span)

def flagList : Scanner FlagList :=
  iterate (fun flags ↦ do
    let span ← charSpan
    match ← char? with
    | none | some ':' | some ')' => return none
    | some c =>
      let flag ←
        if c = '-' then pure none
        else match flagLetters.lookup c with
          | some flag => pure (some flag)
          | none => fail .flagUnknown span
      match flags.lookup flag with
      | some earlier =>
        throw ⟨if flag.isNone then .negationRepeated else .flagRepeated, span, some earlier⟩
      | none => pure ()
      bump
      if ← atEnd then fail .flagsEnd (← point)
      return some (flags ++ [(flag, span)])) []

/-- The flags before the sign are switched on, and those after it off. -/
def FlagList.change (flags : FlagList) : FlagChange :=
  let on := flags.takeWhile (·.1.isSome)
  let off := flags.dropWhile (·.1.isSome)
  on.filterMap (fun f ↦ f.1.map (·, true)) ++ off.filterMap fun f ↦ f.1.map (·, false)

def readFlags : Scanner FlagChange := do
  let flags ← flagList
  match flags.getLast? with
  | some (none, span) => fail .negationDangling span
  | _ => return flags.change

def isNameStart (c : Char) : Bool := c = '_' || Text.Unicode.nameLetters.contains c

def isNameRest (c : Char) : Bool :=
  isNameStart c || c = '.' || c = '[' || c = ']' || Text.Unicode.nameNumerals.contains c

def groupName (names : List (String × Span)) : Scanner (String × Span) := do
  let start ← here
  let name ← iterate (fun name ↦ do
    match ← char? with
    | none | some '>' => return none
    | some c =>
      if !(if name.isEmpty then isNameStart c else isNameRest c) then
        fail .nameCharacter (← charSpan)
      bump
      return some (name ++ [c])) []
  let span ← spanSince start
  if ← atEnd then fail .nameEnd (← point)
  bump
  let name := String.ofList name
  if name = "" then fail .nameEmpty (.point start)
  match names.lookup name with
  | some earlier => throw ⟨.nameRepeated, span, some earlier⟩
  | none => return (name, span)

/-- Goes into a group. Flags may change whether blanks are passed over. -/
def enterGroup (s : State) (span : Span) (captures : Bool) (change : FlagChange) :
    Scanner State := do
  let verbose := (← get).verbose
  modify fun c ↦ { c with verbose := (change.lookup .verbose).getD verbose }
  return { s with
    parts := .empty (← here)
    surroundings := .group s.parts span captures change verbose :: s.surroundings }

def flagGroup (s : State) (span : Span) (mark : Span) : Scanner State := do
  if ← atEnd then fail .groupUnclosed span
  let change ← readFlags
  let closes := (← char?) = some ')'
  bump
  if closes then
    if change.isEmpty then fail .nothingRepeated mark
    modify fun c ↦ { c with verbose := (change.lookup .verbose).getD c.verbose }
    return { s with parts := s.parts.push (.flags (← spanSince span.start) change) }
  else enterGroup s span false change

def openGroup (s : State) : Scanner State := do
  let span ← charSpan
  bumpBlanks
  if (← bumpIf "?=") || (← bumpIf "?!") || (← bumpIf "?<=") || (← bumpIf "?<!") then
    fail .lookaround (← spanSince span.start)
  let mark ← point
  if (← bumpIf "?P<") || (← bumpIf "?<") then
    let name ← groupName s.names
    enterGroup { s with names := s.names ++ [name] } span true []
  else if ← bumpIf "?" then flagGroup s span mark
  else enterGroup s span true []

def closeGroup (s : State) : Scanner State := do
  let (body, surroundings) := closeChoice s.parts (← here) s.surroundings
  match surroundings with
  | .group outer span captures change verbose :: surroundings =>
    modify fun c ↦ { c with verbose }
    bump
    let group := .group (← spanSince span.start) captures change body
    return { s with parts := outer.push group, surroundings }
  | _ => fail .groupUnopened (← charSpan)

def repeated (s : State) (least : Nat) (most : Option Nat) : Scanner State := do
  match s.parts.split? with
  | none => fail .nothingRepeated (← point)
  | some (before, body) =>
    bump
    let lazy ← bumpIf "?"
    return { s with
      parts := before.push (.repetition (← spanSince body.span.start) least most lazy body) }

/-- The value of decimal digits. White space around them is passed over in any pattern. -/
def decimal : Scanner (Except Flaw Nat) := do
  let _ ← takeWhile Text.isWhite bump
  let start ← here
  let digits ← takeWhile Char.isDigit bumpBlanks
  let span ← spanSince start
  let _ ← takeWhile Text.isWhite bumpBlanks
  let value := Text.ofDigits 10 (digits.filterMap (Text.digit? 10))
  return if digits.isEmpty then .error ⟨.countEmpty, span, none⟩
    else if 0xFFFFFFFF < value then .error ⟨.decimal, span, none⟩
    else .ok value

/-- The bounds in braces after the opening one, which stands at `start`. -/
def bounds (start : Position) : Scanner (Nat × Option Nat) := do
  let unclosed : Scanner Unit := do
    if ← atEnd then fail .countUnclosed (← spanSince start)
  bumpBlanks
  unclosed
  let least ← decimal
  unclosed
  let bounds ←
    if (← char?) = some ',' then do
      bumpBlanks
      unclosed
      if (← char?) = some '\x7d' then pure (← least, none)
      else do
        let least ← least
        let most ← decimal
        pure (least, some (← most))
    else do
      let least ← least
      pure (least, some least)
  if (← char?) ≠ some '\x7d' then fail .countUnclosed (← spanSince start)
  return bounds

def counted (s : State) : Scanner State := do
  let start ← here
  match s.parts.split? with
  | none => fail .nothingRepeated (← point)
  | some (before, body) =>
    let (least, most) ← bounds start
    bumpBlanks
    let lazy ← bumpIf "?"
    if most.any (· < least) then fail .countOrder (← spanSince start)
    return { s with
      parts := before.push (.repetition (← spanSince body.span.start) least most lazy body) }

def primitive (c : Char) : Scanner Tree := do
  if c = '\\' then escape
  else
    let span ← charSpan
    bump
    return if c = '.' then .dot span
      else if c = '^' then .assertion span .lineStart
      else if c = '$' then .assertion span .lineStop
      else .literal ⟨span, c, false⟩

def step (s : State) : Scanner (Option State) := do
  skipBlanks
  match ← char? with
  | none => return none
  | some c =>
    let push (t : Tree) : State := { s with parts := s.parts.push t }
    if c = '(' then openGroup s
    else if c = ')' then closeGroup s
    else if c = '|' then nextBranch s
    else if c = '[' then return push (← bracketedSet)
    else if c = '?' then repeated s 0 (some 1)
    else if c = '*' then repeated s 0 none
    else if c = '+' then repeated s 1 none
    else if c = '\x7b' then counted s
    else return push (← primitive c)

def pattern : Scanner Tree := do
  let s ← iterate step ⟨.empty (← here), [], []⟩
  let (tree, surroundings) := closeChoice s.parts (← here) s.surroundings
  match surroundings with
  | .group _ span .. :: _ => fail .groupUnclosed span
  | _ => return tree

def nestLimit : Nat := 250

def Tree.ofText (text : List Char) : Except Flaw Tree := do
  let (tree, _) ← pattern.run (.ofText text)
  tree.checkDepth nestLimit 0
  return tree

end StackDepth.Pattern
