import StackDepth.Json.Skim
import StackDepth.Json.Value

namespace StackDepth.Json

open Reader

structure Codec (α : Type) where
  read : Reader α
  write : α → Value

/-- Fails at a value of another shape than the one wanted. A literal, a number or a string is read
to its end, where its own faults come first; a list or an object is not. -/
def wrongShape {α : Type} : Reader α := do
  match ← peek? with
  | none => fail .endOfText
  | some c =>
    match literalRest? c with
    | some rest =>
      skip
      expectAll rest
      fail .mismatch
    | none =>
      if c = '"' then
        skip
        let _ ← Quoted.body
        fail .mismatch
      else if c = '-' || Numeral.isDigit c then
        let n ← Numeral.read .endOfText
        fail (if n.isOutOfRange then .malformed else .mismatch)
      else if c = '[' || c = '\x7b' then fail .mismatch
      else fail .malformed

namespace Codec

variable {α β : Type}

def readWord : Reader UInt64 := do
  let c ← begin
  if c = '-' || Numeral.isDigit c then
    let n ← Numeral.read .endOfText
    match n.word? with
    | some w => return w
    | none => fail (if n.isOutOfRange then .malformed else .mismatch)
  else wrongShape

def word : Codec UInt64 where
  read := readWord
  write w := .number w.toNat

def count : Codec Nat where
  read := UInt64.toNat <$> readWord
  write n := .number n

def readText : Reader String := do
  let c ← begin
  if c = '"' then
    skip
    Quoted.body
  else wrongShape

def text : Codec String where
  read := readText
  write s := .text s

/-- The items of a list after `done`, which stand newest first, up to the closing bracket. -/
def itemsAfter (read : Reader α) (done : List α) (s : List Char) :
    Except Fault (Read (List α) s) :=
  match h : s.dropWhile isBlank with
  | [] => .error .endOfText
  | c :: t =>
    have ht := length_lt_of_dropWhile h
    if c = ']' then .ok ⟨done.reverse, t, Nat.le_of_lt ht⟩
    else if c = ',' then
      match t.dropWhile isBlank with
      | [] => .error .endOfText
      | ']' :: _ => .error .malformed
      | _ =>
        match read t with
        | .error e => .error e
        | .ok r =>
          have hr := r.le
          (itemsAfter read (r.value :: done) r.rest).map (Read.widen (by omega))
    else .error .malformed
termination_by s.length

def items (read : Reader α) : Reader (List α) := do
  let c ← begin
  if c = ']' then
    skip
    return []
  else
    let first ← read
    itemsAfter read [first]

def list (item : Codec α) : Codec (List α) where
  read := do
    let c ← begin
    if c = '[' then
      skip
      items item.read
    else wrongShape
  write xs := .list (xs.map item.write)

def encode (c : Codec α) (a : α) : String :=
  String.ofList (c.write a).render

def decode (c : Codec α) (text : String) : Except Fault α :=
  c.read.document text

end Codec

end StackDepth.Json
