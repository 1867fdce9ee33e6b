import StackDepth.Pattern.Normal
import StackDepth.Pattern.Tree
import StackDepth.Text.Unicode.Folding

namespace StackDepth.Pattern

open Text (CharSet)

structure Flags where
  caseless : Bool := false
  multiLine : Bool := false
  dotAll : Bool := false
  lazy : Bool := false
  unicode : Bool := true
  crlf : Bool := false

namespace Flags

def set (fs : Flags) : Flag × Bool → Flags
  | (.caseless, on) => { fs with caseless := on }
  | (.multiLine, on) => { fs with multiLine := on }
  | (.dotAll, on) => { fs with dotAll := on }
  | (.lazy, on) => { fs with lazy := on }
  | (.unicode, on) => { fs with unicode := on }
  | (.crlf, on) => { fs with crlf := on }
  | (.verbose, _) => fs

def change (fs : Flags) (change : FlagChange) : Flags := change.foldl set fs

end Flags

def refuse {α : Type} (kind : FlawKind) (span : Span) : Except Flaw α := .error ⟨kind, span, none⟩

/-- The character of a literal. Without Unicode a byte beyond ASCII is no character. -/
def Literal.value (fs : Flags) (l : Literal) : Except Flaw Char :=
  if !fs.unicode && l.isByte && 0x80 ≤ l.char.toNat then refuse .invalidUtf8 l.span
  else .ok l.char

def Literal.member (fs : Flags) (l : Literal) : Except Flaw Char := do
  let c ← l.value fs
  if !fs.unicode && 0x80 ≤ c.toNat then refuse .unicodeOff l.span else return c

def foldCase (fs : Flags) (s : CharSet) : CharSet :=
  if !fs.caseless then s else if fs.unicode then s.foldCase else s.foldCaseAscii

/-- The set or its complement. Without Unicode the complement holds bytes that are no characters. -/
def negate (fs : Flags) (span : Span) (negated : Bool) (s : CharSet) : Except Flaw CharSet :=
  if !negated then .ok s
  else if fs.unicode then .ok s.complement
  else refuse .invalidUtf8 span

def LetterClass.characters (fs : Flags) : LetterClass → CharSet
  | .digit => if fs.unicode then Text.Unicode.digits else Text.Ascii.digits
  | .space => if fs.unicode then .ofRuns Text.whiteRanges else Text.Ascii.space
  | .word => wordCharacters fs.unicode

def PropertyName.characters (fs : Flags) (span : Span) (name : PropertyName) :
    Except Flaw CharSet :=
  if !fs.unicode then refuse .unicodeOff span
  else
    let found := match name with
      | .named name => Text.Unicode.named name
      | .valued name value => Text.Unicode.valued name value
    match found with
    | .ok s => .ok s
    | .error .property => refuse .propertyUnknown span
    | .error .value => refuse .propertyValueUnknown span

def SetOperation.apply (left right : CharSet) : SetOperation → CharSet
  | .inter => left.inter right
  | .diff => left.diff right
  | .symmDiff => left.symmDiff right

mutual

def Item.characters (fs : Flags) : Item → Except Flaw CharSet
  | .empty _ => .ok .empty
  | .literal l => return .singleton (← l.member fs)
  | .range _ first last => return .range (← first.member fs) (← last.member fs)
  | .ascii span negated s => negate fs span negated (foldCase fs s)
  | .property span negated name => do
    negate fs span negated (foldCase fs (← name.characters fs span))
  | .letter span negated which => negate fs span negated (which.characters fs)
  | .bracketed span negated body => do
    negate fs span negated (foldCase fs (← body.characters fs))
  | .union _ items => itemCharacters fs items
  | .operation _ operation left right => do
    let left ← left.characters fs
    let right ← right.characters fs
    return operation.apply (foldCase fs left) (foldCase fs right)

def itemCharacters (fs : Flags) : List Item → Except Flaw CharSet
  | [] => .ok .empty
  | i :: is => do
    let s ← i.characters fs
    return s.union (← itemCharacters fs is)

end

def Assertion.look (fs : Flags) : Assertion → Look
  | .lineStart => if !fs.multiLine then .textStart else if fs.crlf then .crlfStart else .lineStart
  | .lineStop => if !fs.multiLine then .textStop else if fs.crlf then .crlfStop else .lineStop
  | .textStart => .textStart
  | .textStop => .textStop
  | .word edge => .word fs.unicode edge

def dotCharacters (fs : Flags) : CharSet :=
  if fs.dotAll then .all
  else if fs.crlf then CharSet.all.diff (.ofRuns [(0x0A, 0x0A), (0x0D, 0x0D)])
  else CharSet.all.diff (.singleton '\n')

mutual

/-- The meaning of a pattern; flags are changed for what follows. -/
def Tree.meaning : Tree → StateT Flags (Except Flaw) Expr
  | .empty _ => return .empty
  | .flags _ change => do
    modify (·.change change)
    return .empty
  | .literal l => do
    let fs ← get
    return .ofSet (!fs.unicode) (foldCase fs (.singleton (← l.value fs)))
  | .dot span => do
    let fs ← get
    if !fs.unicode then throw ⟨.invalidUtf8, span, none⟩
    return .ofSet false (dotCharacters fs)
  | .assertion _ a => return .look (a.look (← get))
  | .property span negated name => do
    let fs ← get
    return .ofSet (!fs.unicode) (← negate fs span negated (foldCase fs (← name.characters fs span)))
  | .letter span negated which => do
    let fs ← get
    return .ofSet (!fs.unicode) (← negate fs span negated (which.characters fs))
  | .bracketed span negated body => do
    let fs ← get
    return .ofSet (!fs.unicode) (← negate fs span negated (foldCase fs (← body.characters fs)))
  | .repetition _ least most lazy body => do
    let e ← body.meaning
    return .times least most (lazy != (← get).lazy) e
  | .group _ captures change body => do
    let fs ← get
    set (fs.change change)
    let e ← body.meaning
    set fs
    return if captures then .capture e else e
  | .choice _ branches => return .either (← meanings branches)
  | .sequence _ parts => return .inTurn (← meanings parts)

def meanings : List Tree → StateT Flags (Except Flaw) (List Expr)
  | [] => return []
  | t :: ts => do
    let e ← t.meaning
    return e :: (← meanings ts)

end

end StackDepth.Pattern
