import StackDepth.Listing.Line
import StackDepth.Routine

namespace StackDepth.Listing

open Text

inductive Error where
  | orphan (line : Nat) (text : String)
  | address (line : Nat) (text : String)
  | unreadable (reason : String)
  deriving DecidableEq, Repr

def Error.message : Error → String
  | .orphan line text =>
    s!"line {line}: instruction outside of any function (truncated listing?): {text}"
  | .address line text => s!"line {line}: address {text} does not fit in 64 bits"
  | .unreadable reason => s!"failed to read listing: {reason}"

/-- How far a listing has been read: the number of lines, and the routines, where both the
routines and their instructions stand newest first. -/
structure Scan where
  line : Nat
  recent : List Routine
  deriving DecidableEq, Repr

namespace Scan

def start : Scan := ⟨0, []⟩

def routines (scan : Scan) : List Routine :=
  (scan.recent.map fun r ↦ { r with body := r.body.reverse }).reverse

def extend (line : Nat) (recent : List Routine) (s : List Char) : Except Error (List Routine) :=
  match Line.ofText s with
  | .noise => .ok recent
  | .header address name =>
    match word? 16 address with
    | none => .error (.address line (String.ofList address))
    | some entry => .ok (.ofHeader (String.ofList name) entry :: recent)
  | .instruction address bytes text =>
    match word? 16 address, recent with
    | none, _ => .error (.address line (String.ofList address))
    | some _, [] => .error (.orphan line (String.ofList s))
    | some address, r :: older =>
      let i := Instruction.ofText address (String.ofList bytes) (String.ofList text)
      .ok ({ r with body := i :: r.body } :: older)

/-- Reads one line. Carriage returns and line feeds at its end do not belong to it. -/
def feed (scan : Scan) (s : List Char) : Scan × Except Error Unit :=
  let line := scan.line + 1
  match extend line scan.recent (dropEndWhile (fun c ↦ c == '\r' || c == '\n') s) with
  | .ok recent => (⟨line, recent⟩, .ok ())
  | .error e => (⟨line, scan.recent⟩, .error e)

def next (scan : Scan) (s : List Char) : Except Error Scan :=
  match scan.feed s with
  | (scan, .ok ()) => .ok scan
  | (_, .error e) => .error e

end Scan

end StackDepth.Listing
