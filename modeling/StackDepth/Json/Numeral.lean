import StackDepth.Json.Reader
import StackDepth.Text.Word

namespace StackDepth.Json

open Reader

structure Numeral where
  negative : Bool
  whole : List Char
  fraction : List Char
  exponent : Option (Bool × List Char)

namespace Numeral

def isDigit (c : Char) : Bool := '0' ≤ c && c ≤ '9'

def digits (atEnd : Fault) : Reader (List Char) := do
  let ds ← takeWhile isDigit
  if ds.isEmpty then
    match ← peek? with
    | none => fail atEnd
    | some _ => fail .malformed
  else return ds

def optional (p : Char → Bool) : Reader Bool := do
  match ← peek? with
  | none => return false
  | some c =>
    if p c then
      skip
      return true
    else return false

/-- Reads a number. Only a zero that stands alone begins with a zero. -/
def read (atEnd : Fault) : Reader Numeral := do
  let negative ← optional (· == '-')
  let whole ← digits atEnd
  if whole.head? = some '0' ∧ 1 < whole.length then fail .malformed
  else
    let fraction ← if ← optional (· == '.') then digits atEnd else pure []
    let exponent ←
      if ← optional (fun c ↦ c == 'e' || c == 'E') then do
        let down ← optional (· == '-')
        if !down then
          let _ ← optional (· == '+')
        pure (some (down, ← digits atEnd))
      else pure none
    return { negative, whole, fraction, exponent }

def value (ds : List Char) : Nat :=
  Text.ofDigits 10 (ds.map fun c ↦ c.toNat - '0'.toNat)

def word? (n : Numeral) : Option UInt64 :=
  if n.negative ∨ n.fraction ≠ [] ∨ n.exponent.isSome ∨ UInt64.size ≤ value n.whole then none
  else some (UInt64.ofNat (value n.whole))

def leading (ds : List Char) : Nat × Nat :=
  ds.foldl (fun (m, dropped) c ↦
    let m' := 10 * m + (c.toNat - '0'.toNat)
    if dropped = 0 ∧ m' < UInt64.size then (m', 0) else (m, dropped + 1)) (0, 0)

def appendFraction (m : Nat) (ds : List Char) : Nat × Nat :=
  let (m, taken, _) := ds.foldl (fun (m, taken, full) c ↦
    let m' := 10 * m + (c.toNat - '0'.toNat)
    if !full ∧ m' < UInt64.size then (m', taken + 1, false) else (m, taken, true)) (m, 0, false)
  (m, taken)

/-- A word and a power of ten of which the number is the product, but for digits after those that
the word holds. -/
def scientific (n : Numeral) : Nat × Int :=
  let (m, dropped) := leading n.whole
  let (m, taken) := appendFraction m n.fraction
  let e := match n.exponent with
    | none => 0
    | some (true, ds) => -(value ds : Int)
    | some (false, ds) => value ds
  (m, dropped - taken + e)

def isOutOfRange (n : Numeral) : Bool :=
  let (m, e) := n.scientific
  m ≠ 0 && 0 ≤ e &&
    (308 < e || ((UInt64.ofNat m).toFloat * Float.ofScientific 1 false e.toNat).isInf)

end Numeral

end StackDepth.Json
