import StackDepth.Json.Reader
import StackDepth.Text.Utf8
import StackDepth.Text.Word

namespace StackDepth.Json.Quoted

open Reader

def escapeChar (c : Char) : List Char :=
  match c with
  | '"' => ['\\', '"']
  | '\\' => ['\\', '\\']
  | '\x08' => ['\\', 'b']
  | '\t' => ['\\', 't']
  | '\n' => ['\\', 'n']
  | '\x0c' => ['\\', 'f']
  | '\r' => ['\\', 'r']
  | c =>
    if c < ' ' then
      ['\\', 'u', '0', '0', Nat.digitChar (c.toNat / 16), Nat.digitChar (c.toNat % 16)]
    else [c]

def write (s : String) : List Char :=
  '"' :: s.toList.flatMap escapeChar ++ ['"']

/-- Four digits in base sixteen. A text with less than four bytes left ends too early, whatever
these are. -/
def unit : Reader Nat := fun s ↦
  match s with
  | a :: b :: c :: d :: t =>
    match [a, b, c, d].mapM (Text.digit? 16) with
    | some digits => .ok ⟨Text.ofDigits 16 digits, t, by simp; omega⟩
    | none => .error .malformed
  | s => .error (if (Utf8.encode s).length < 4 then .endOfText else .malformed)

def isHighSurrogate (n : Nat) : Bool := 0xD800 ≤ n && n ≤ 0xDBFF

def isLowSurrogate (n : Nat) : Bool := 0xDC00 ≤ n && n ≤ 0xDFFF

def scalar : Reader Char := do
  let n ← unit
  if isLowSurrogate n then fail .malformed
  else if isHighSurrogate n then
    expectAll ['\\', 'u']
    let m ← unit
    if isLowSurrogate m then return Char.ofNat (0x10000 + (n - 0xD800) * 0x400 + (m - 0xDC00))
    else fail .malformed
  else return Char.ofNat n

def escape (numbered : Reader Char) : Reader Char := do
  match ← next with
  | '"' => return '"'
  | '\\' => return '\\'
  | '/' => return '/'
  | 'b' => return '\x08'
  | 't' => return '\t'
  | 'n' => return '\n'
  | 'f' => return '\x0c'
  | 'r' => return '\r'
  | 'u' => numbered
  | _ => fail .malformed

def charsFrom (numbered : Reader Char) (done : List Char) (s : List Char) :
    Except Fault (Read (List Char) s) :=
  match s with
  | [] => .error .endOfText
  | c :: t =>
    if c = '"' then .ok ⟨done.reverse, t, by simp⟩
    else if c = '\\' then
      match escape numbered t with
      | .error e => .error e
      | .ok r =>
        have hr := r.le
        (charsFrom numbered (r.value :: done) r.rest).map (Read.widen (by simp; omega))
    else if c < ' ' then .error .malformed
    else (charsFrom numbered (c :: done) t).map (Read.widen (by simp))
termination_by s.length

def body : Reader String := fun s ↦
  (charsFrom scalar [] s).map fun r ↦ ⟨String.ofList r.value, r.rest, r.le⟩

/-- Passes over the rest of a string after its opening quote. Any unit may stand alone in it. -/
def skim : Reader Unit := fun s ↦
  (charsFrom (Char.ofNat <$> unit) [] s).map fun r ↦ ⟨(), r.rest, r.le⟩

end StackDepth.Json.Quoted
