import StackDepth.Pattern.Normal
import StackDepth.Text.Utf8

namespace StackDepth.Pattern

/-- Bytes that matches begin with, and whether a match is whole with them. -/
structure Beginning where
  bytes : List UInt8
  whole : Bool
  deriving DecidableEq

abbrev Beginnings := Option (List Beginning)

namespace Beginning

def empty : Beginning := ⟨[], true⟩

def unfinished (b : Beginning) : Beginning := { b with whole := false }

def cut (length : Nat) (b : Beginning) : Beginning :=
  if b.bytes.length ≤ length then b else ⟨b.bytes.take length, false⟩

def longest : Nat := 100

def ofChars (chars : List Char) : Beginning := cut longest ⟨Utf8.encode chars, true⟩

def append (b c : Beginning) : Beginning :=
  if b.whole then ⟨b.bytes ++ c.bytes, c.whole⟩ else b

end Beginning

namespace Beginnings

open Beginning (cut unfinished longest)

def joined (bs : List Beginning) : List Beginning :=
  bs.foldr (fun b rest ↦
    match rest with
    | c :: cs => if b.bytes = c.bytes then ⟨b.bytes, b.whole && c.whole⟩ :: cs else b :: c :: cs
    | [] => [b]) []

def atMost : Nat := 250

def ofAll (bs cs : List Beginning) : Beginnings :=
  if bs.length + cs.length ≤ atMost then some (joined (bs ++ cs)) else none

/-- One or the other. Where there are too many, less is kept of each. -/
def union (bs cs : Beginnings) : Beginnings := do
  let bs ← bs
  let cs ← cs
  ofAll bs cs <|> ofAll (joined (bs.map (cut 4))) (joined (cs.map (cut 4)))

def product (bs : List Beginning) : Beginnings → Beginnings
  | some cs =>
    if bs.length * cs.length ≤ atMost then
      let all := bs.flatMap fun b ↦ if b.whole then cs.map b.append else [b]
      some ((joined all).map (cut longest))
    else ofAny bs
  | none => ofAny bs
where
  ofAny (bs : List Beginning) : Beginnings :=
    if bs.any (·.bytes.isEmpty) then none else some (bs.map unfinished)

def andThen (bs cs : Beginnings) : Beginnings := do
  let bs ← bs
  if bs.any Beginning.whole then product bs cs else some bs

def mostTimes : Nat := 10

def times (n : Nat) (bs : Beginnings) : Beginnings :=
  Nat.repeat (andThen · bs) (min n mostTimes) (some [.empty])

def ofRepetition (least : Nat) (most : Option Nat) (lazy : Bool) (bs : Beginnings) : Beginnings :=
  if least = 0 then
    let bs := if most = some 1 then bs else bs.map (·.map unfinished)
    if lazy then union (some [.empty]) bs else union bs (some [.empty])
  else if most = some least ∧ least ≤ mostTimes then times least bs
  else (times least bs).map (·.map unfinished)

def ofSet (s : Text.CharSet) : Beginnings :=
  if s.runs.foldl (fun n r ↦ n + (r.2 - r.1 + 1)) 0 ≤ 10 then
    some (s.runs.flatMap fun r ↦
      (List.range' r.1 (r.2 - r.1 + 1)).map fun code ↦ .ofChars [Char.ofNat code])
  else none

/-- The beginnings that go on from none before them. -/
def preferred (bs : List Beginning) : List Beginning :=
  bs.foldl (fun kept b ↦
    if kept.any (·.bytes.isPrefixOf b.bytes) then kept else kept ++ [b]) []

def commonBytes : List UInt8 → List UInt8 → List UInt8
  | a :: as, b :: bs => if a = b then a :: commonBytes as bs else []
  | _, _ => []

def shared : List Beginning → List UInt8
  | [] => []
  | b :: bs => bs.foldl (fun bytes c ↦ commonBytes bytes c.bytes) b.bytes

def isFrequent (b : UInt8) : Bool :=
  0x80 ≤ b || "\n\r (),-./0129:_abcdefghilmnoprstuvxy|".toList.contains (Char.ofNat b.toNat)

def areWhole (bs : List Beginning) : Bool := bs.all Beginning.whole

def shortened (bs : List Beginning) : List (Nat × Nat) → List Beginning
  | [] => bs
  | (length, count) :: rest =>
    if bs.length ≤ count then bs else shortened (preferred (bs.map (cut length))) rest

/-- Whether beginnings are searched for as they are. Few bytes in common, of which the first is
rare, are searched for instead, and so is much that they have in common and, where there are many
of them, less of each. -/
def areSearched (bs : List Beginning) : Bool :=
  let kept := preferred bs
  let bytes := shared kept
  if kept.isEmpty || kept.any (·.bytes.isEmpty) then false
  else if 1 < bs.length && bytes.length ≤ 3 && bytes.head?.any (!isFrequent ·) then
    areWhole (kept.map (cut 1))
  else if 4 < bytes.length || (1 < bytes.length && !(areWhole kept && kept.length ≤ 16)) then
    areWhole (kept.map (cut bytes.length))
  else
    let short := shortened kept [(5, 10), (4, 10), (3, 64), (2, 64), (1, 10)]
    areWhole kept && (areWhole short || short.any (·.bytes.length ≤ 2) || 64 < short.length)

end Beginnings

namespace Expr

open Beginnings (union andThen)

mutual

/-- What the matches of an expression begin with. -/
def beginnings : Expr → Beginnings
  | .empty | .look _ => some [.empty]
  | .text chars => some [.ofChars chars]
  | .one s _ => Beginnings.ofSet s
  | .sequence parts => beginningsInTurn (some [.empty]) parts
  | .choice branches => beginningsOfAny (some []) branches
  | .repetition least most lazy body => Beginnings.ofRepetition least most lazy body.beginnings
  | .capture body => body.beginnings

def beginningsInTurn (bs : Beginnings) : List Expr → Beginnings
  | [] => bs
  | e :: es => beginningsInTurn (andThen bs e.beginnings) es

def beginningsOfAny (bs : Beginnings) : List Expr → Beginnings
  | [] => bs
  | e :: es => beginningsOfAny (union bs e.beginnings) es

end

mutual

def isPlain : Expr → Bool
  | .empty | .text _ | .one .. => true
  | .look _ | .capture _ => false
  | .sequence es | .choice es => arePlain es
  | .repetition _ _ _ body => body.isPlain

def arePlain : List Expr → Bool
  | [] => true
  | e :: es => e.isPlain && arePlain es

end

def text? : Expr → Option (List Char)
  | .text chars => some chars
  | _ => none

def isTexts : Expr → Bool
  | .choice es => 3000 ≤ es.length && es.all (·.text?.isSome)
  | _ => false

def isSearchedAsTexts (e : Expr) : Bool :=
  e.isTexts || (e.isPlain && e.beginnings.any Beginnings.areSearched)

end Expr

end StackDepth.Pattern
