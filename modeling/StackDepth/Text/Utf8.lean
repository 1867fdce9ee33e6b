namespace StackDepth.Utf8

def encode (s : List Char) : List UInt8 :=
  s.flatMap String.utf8EncodeChar

structure Lead where
  following : Nat
  low : UInt8
  high : UInt8
  bits : Nat

/-- The lead bytes of sequences of two to four bytes. The range of the second byte leaves out
overlong forms, surrogates and what lies above the last code point. -/
def lead? (b : UInt8) : Option Lead :=
  if 0xC2 ≤ b ∧ b ≤ 0xDF then some ⟨1, 0x80, 0xBF, b.toNat - 0xC0⟩
  else if b = 0xE0 then some ⟨2, 0xA0, 0xBF, 0⟩
  else if b = 0xED then some ⟨2, 0x80, 0x9F, 0xD⟩
  else if 0xE1 ≤ b ∧ b ≤ 0xEF then some ⟨2, 0x80, 0xBF, b.toNat - 0xE0⟩
  else if b = 0xF0 then some ⟨3, 0x90, 0xBF, 0⟩
  else if 0xF1 ≤ b ∧ b ≤ 0xF3 then some ⟨3, 0x80, 0xBF, b.toNat - 0xF0⟩
  else if b = 0xF4 then some ⟨3, 0x80, 0x8F, 4⟩
  else none

/-- Where decoding stands between two bytes: between characters, or inside one that still wants
`following` bytes, of which the next is at least `low` and at most `high`. -/
inductive State where
  | between
  | inside (following : Nat) (low high : UInt8) (bits : Nat)

/-- A decoded character, or none for a longest run of bytes that begins a character and is not
continued. -/
abbrev Item := Option Char

def start (b : UInt8) : State × List Item :=
  if b < 0x80 then (.between, [some (Char.ofNat b.toNat)])
  else match lead? b with
    | some l => (.inside l.following l.low l.high l.bits, [])
    | none => (.between, [none])

def step : State → UInt8 → State × List Item
  | .between, b => start b
  | .inside following low high bits, b =>
    if low ≤ b ∧ b ≤ high then
      let bits := bits * 64 + (b.toNat - 0x80)
      if following ≤ 1 then (.between, [some (Char.ofNat bits)])
      else (.inside (following - 1) 0x80 0xBF bits, [])
    else
      let (next, items) := start b
      (next, none :: items)

def State.finish : State → List Item
  | .between => []
  | .inside .. => [none]

structure Decoding where
  state : State
  items : List Item

def Decoding.push (d : Decoding) (b : UInt8) : Decoding :=
  let (next, new) := step d.state b
  ⟨next, new.reverse ++ d.items⟩

def Decoding.finish (d : Decoding) : List Item :=
  d.items.reverse ++ d.state.finish

def items (bytes : List UInt8) : List Item :=
  (bytes.foldl Decoding.push ⟨.between, []⟩).finish

def decode? (bytes : List UInt8) : Option (List Char) :=
  (items bytes).mapM id

def invalidReason : String := "stream did not contain valid UTF-8"

def decodeLossy (bytes : List UInt8) : List Char :=
  (items bytes).map fun item ↦ item.getD '�'

end StackDepth.Utf8
