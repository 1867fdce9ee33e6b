import StackDepth.Pattern.Flaw

namespace StackDepth.Pattern

structure Cursor where
  position : Position
  rest : List Char
  verbose : Bool

namespace Cursor

def ofText (pattern : List Char) : Cursor := ⟨⟨0, 1, 1⟩, pattern, false⟩

def bump (c : Cursor) : Cursor :=
  match c.rest with
  | [] => c
  | x :: rest => { c with position := c.position.after x, rest }

/-- Passes over blanks and comments. A comment goes from a number sign to the end of the line. -/
def pastBlanks (inComment : Bool) (p : Position) : List Char → Position × List Char
  | [] => (p, [])
  | x :: rest =>
    if inComment then pastBlanks (x != '\n') (p.after x) rest
    else if Text.isWhite x then pastBlanks false (p.after x) rest
    else if x = '#' then pastBlanks true (p.after x) rest
    else (p, x :: rest)

def skipBlanks (c : Cursor) : Cursor :=
  if c.verbose then
    let (position, rest) := pastBlanks false c.position c.rest
    { c with position, rest }
  else c

/-- The first character that is no blank and no number sign; a second number sign counts. -/
def significant? (seen : Bool) : List Char → Option Char
  | [] => none
  | x :: rest =>
    if Text.isWhite x then significant? seen rest
    else if !seen && x = '#' then significant? true rest
    else some x

def second? (c : Cursor) : Option Char :=
  let after := c.rest.tail
  if c.verbose then (significant? false after).or after.head? else after.head?

end Cursor

abbrev Scanner := StateT Cursor (Except Flaw)

namespace Scanner

variable {α σ : Type}

def here : Scanner Position := return (← get).position

def char? : Scanner (Option Char) := return (← get).rest.head?

def atEnd : Scanner Bool := return (← char?).isNone

def bump : Scanner Unit := modify Cursor.bump

def skipBlanks : Scanner Unit := modify Cursor.skipBlanks

def bumpBlanks : Scanner Unit := do
  bump
  skipBlanks

def bumpIf (mark : String) : Scanner Bool := do
  if mark.toList.isPrefixOf (← get).rest then
    modify fun c ↦ mark.toList.foldl (fun c _ ↦ c.bump) c
    return true
  else return false

def fail (kind : FlawKind) (span : Span) : Scanner α := throw ⟨kind, span, none⟩

def spanSince (start : Position) : Scanner Span := return ⟨start, ← here⟩

def point : Scanner Span := return .point (← here)

def charSpan : Scanner Span := do
  let c ← get
  return ⟨c.position, c.bump.position⟩

/-- Does a step again and again, as long as it gives a new state and comes nearer to the end. -/
def iterate (step : σ → Scanner (Option σ)) (s : σ) (c : Cursor) : Except Flaw (σ × Cursor) :=
  match step s c with
  | .error flaw => .error flaw
  | .ok (none, next) => .ok (s, next)
  | .ok (some t, next) =>
    if next.rest.length < c.rest.length then iterate step t next else .ok (t, next)
termination_by c.rest.length

def takeWhile (p : Char → Bool) (step : Scanner Unit) : Scanner (List Char) :=
  iterate (fun taken ↦ do
    match ← char? with
    | some c =>
      if p c then
        step
        return some (taken ++ [c])
      else return none
    | none => return none) []

end Scanner

end StackDepth.Pattern
