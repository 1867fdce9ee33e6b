import StackDepth.Text.CharSet

namespace StackDepth.Pattern

open Text (CharSet)

abbrev ByteRuns := List (UInt8 × UInt8)

def lastOfLengths : List Nat := [0x7F, 0x7FF, 0xFFFF]

/-- The last code point of the first part, where a run has to be divided since the number of bytes
or more than the last of their places changes in it. -/
def splitAt? (first last : Nat) : Option Nat :=
  let byLength := lastOfLengths.find? fun n ↦ first ≤ n && n < last
  let byPlace := [0x40, 0x1000, 0x40000].findSome? fun block ↦
    if first / block = last / block then none
    else if first % block ≠ 0 then some (first / block * block + block - 1)
    else if last % block ≠ block - 1 then some (last / block * block - 1)
    else none
  byLength.or (if last ≤ 0x7F then none else byPlace)

def bytesOf (code : Nat) : List UInt8 := String.utf8EncodeChar (Char.ofNat code)

def encodingsOfRun (first last : Nat) : List ByteRuns :=
  match splitAt? first last with
  | some k =>
    if _ : first ≤ k ∧ k < last then encodingsOfRun first k ++ encodingsOfRun (k + 1) last
    else []
  | none => [(bytesOf first).zip (bytesOf last)]
termination_by last - first

def encodings (s : CharSet) : List ByteRuns :=
  (s.inter .all).runs.flatMap fun r ↦ encodingsOfRun r.1 r.2

end StackDepth.Pattern
