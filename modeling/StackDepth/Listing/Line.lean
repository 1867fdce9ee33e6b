import StackDepth.Text.Cut
import StackDepth.Text.Word

namespace StackDepth.Listing

open Text

inductive Line where
  | header (address name : List Char)
  | instruction (address bytes text : List Char)
  | noise
  deriving DecidableEq, Repr

namespace Line

def isNameChar (c : Char) : Bool :=
  c.isAlphanum || c == '.' || c == '_' || c == '$'

def isByteChar (c : Char) : Bool :=
  isHex c || c == ' '

def header? (s : List Char) : Option Line := do
  let address := s.take 8
  guard (address.length = 8 ∧ address.all isHex)
  let rest ← after? " <".toList (s.drop 8)
  let name := rest.takeWhile isNameChar
  guard (name ≠ [] ∧ rest.dropWhile isNameChar = ">:".toList)
  return .header address name

/-- What a text can be read as from its beginning on. Where there are several ways, each part is as
long as it can be, the earlier parts before the later ones. -/
structure Reading where
  text : Option (List Char)
  gapText : Option (List Char)
  bytesText : Option (List Char × List Char)
  operation : Option (List Char × List Char)

def Reading.push (c : Char) (s : List Char) (r : Reading) : Reading where
  text :=
    if isWhite c then r.text.or (if c = '\t' ∧ '\n' ∉ s then some s else none) else none
  gapText := if isWhite c then r.text else none
  bytesText :=
    if isByteChar c then
      (r.bytesText.map fun (bytes, text) ↦ (c :: bytes, text)).or
        (r.gapText.map fun text ↦ ([c], text))
    else none
  operation := if isWhite c then r.operation.or r.bytesText else none

def Reading.of : List Char → Reading
  | [] => ⟨none, none, none, none⟩
  | c :: s => (Reading.of s).push c s

/-- White space, an address, a colon, bytes, and after a TAB the text. -/
def instruction? (s : List Char) : Option Line := do
  let indented := s.dropWhile isWhite
  guard (indented.length < s.length)
  let address := indented.takeWhile isHex
  guard (address ≠ [])
  let rest ← after? [':'] (indented.dropWhile isHex)
  let (bytes, text) ← (Reading.of rest).operation
  return .instruction address (trim bytes) text

def ofText (s : List Char) : Line :=
  ((header? s).or (instruction? s)).getD .noise

end Line

end StackDepth.Listing
