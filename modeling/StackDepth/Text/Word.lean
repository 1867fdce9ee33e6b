namespace StackDepth.Text

def digit? (base : Nat) (c : Char) : Option Nat :=
  let value :=
    if '0' ≤ c ∧ c ≤ '9' then c.toNat - '0'.toNat
    else if 'a' ≤ c ∧ c ≤ 'f' then c.toNat - 'a'.toNat + 10
    else if 'A' ≤ c ∧ c ≤ 'F' then c.toNat - 'A'.toNat + 10
    else base
  if value < base then some value else none

def isHex (c : Char) : Bool := (digit? 16 c).isSome

def ofDigits (base : Nat) (digits : List Nat) : Nat :=
  digits.foldl (fun n d ↦ base * n + d) 0

/-- Reads one or more digits after an optional plus sign; none when the number does not fit. -/
def word? (base : Nat) (s : List Char) : Option UInt64 := do
  let unsigned := match s with
    | '+' :: t => t
    | _ => s
  let digits ← unsigned.mapM (digit? base)
  let n := ofDigits base digits
  if digits.isEmpty ∨ UInt64.size ≤ n then none else some (UInt64.ofNat n)

def digits16 (n : Nat) : String :=
  String.ofList (Nat.toDigits 16 n)

def hex (w : UInt64) : String :=
  "0x" ++ digits16 w.toNat

end StackDepth.Text
