import StackDepth.Json.Codec

namespace StackDepth.Json

open Reader

structure Field where
  name : String
  type : Type
  codec : Codec type
  absent : Option type := none

def Record : List Field → Type
  | [] => Unit
  | f :: fs => f.type × Record fs

/-- The values of fields as far as they are known. -/
def Draft : List Field → Type
  | [] => Unit
  | f :: fs => Option f.type × Draft fs

def Draft.empty : (fs : List Field) → Draft fs
  | [] => ()
  | _ :: fs => (none, Draft.empty fs)

def Draft.complete? : (fs : List Field) → Draft fs → Option (Record fs)
  | [], () => some ()
  | f :: fs, (value, rest) => do
    let value ← value.or f.absent
    let rest ← Draft.complete? fs rest
    return (value, rest)

/-- What a key means for a draft. -/
inductive Member (σ : Type) where
  | unknown
  | repeated
  | awaited (read : Reader σ)

def Member.map {σ τ : Type} (f : σ → τ) : Member σ → Member τ
  | .unknown => .unknown
  | .repeated => .repeated
  | .awaited read => .awaited (f <$> read)

def Draft.member (key : String) : (fs : List Field) → Draft fs → Member (Draft fs)
  | [], _ => .unknown
  | f :: fs, (value, rest) =>
    if key = f.name then
      match value with
      | some _ => .repeated
      | none => .awaited ((fun v ↦ (some v, rest)) <$> f.codec.read)
    else (Draft.member key fs rest).map fun rest ↦ (value, rest)

def readMember (fs : List Field) (d : Draft fs) : Reader (Draft fs) := do
  let key ← Quoted.body
  match d.member key fs with
  | .unknown =>
    punctuation ':'
    skim
    return d
  | .repeated => fail .mismatch
  | .awaited read =>
    punctuation ':'
    read

/-- The members of an object after those of the draft, up to the closing bracket. -/
def membersAfter (fs : List Field) (d : Draft fs) (s : List Char) :
    Except Fault (Read (Draft fs) s) :=
  match h : s.dropWhile isBlank with
  | [] => .error .endOfText
  | c :: t =>
    have ht := length_lt_of_dropWhile h
    if c = '\x7d' then .ok ⟨d, t, Nat.le_of_lt ht⟩
    else if c = ',' then
      match h' : t.dropWhile isBlank with
      | [] => .error .endOfText
      | '"' :: u =>
        have hu := length_lt_of_dropWhile h'
        match readMember fs d u with
        | .error e => .error e
        | .ok r =>
          have hr := r.le
          (membersAfter fs r.value r.rest).map (Read.widen (by omega))
      | _ => .error .malformed
    else .error .malformed
termination_by s.length

def members (fs : List Field) : Reader (Draft fs) := do
  match ← begin with
  | '\x7d' =>
    skip
    return Draft.empty fs
  | '"' =>
    skip
    let d ← readMember fs (Draft.empty fs)
    membersAfter fs d
  | _ => fail .malformed

def nextItem (first : Bool) : Reader Bool := do
  let c ← begin
  if c = ']' then return false
  else if first then return true
  else if c = ',' then
    skip
    if (← begin) = ']' then fail .malformed else return true
  else fail .malformed

def fieldsInOrder : (fs : List Field) → (first : Bool) → Reader (Record fs)
  | [], _ => pure ()
  | f :: fs, first => do
    let value ←
      if ← nextItem first then f.codec.read
      else match f.absent with
        | some value => pure value
        | none => fail .mismatch
    let rest ← fieldsInOrder fs false
    return (value, rest)

def readRecord (fs : List Field) : Reader (Record fs) := do
  match ← begin with
  | '[' =>
    skip
    let r ← fieldsInOrder fs true
    punctuation ']'
    return r
  | '\x7b' =>
    skip
    let d ← members fs
    match d.complete? fs with
    | some r => return r
    | none => fail .mismatch
  | _ => wrongShape

def Record.members : (fs : List Field) → Record fs → List (String × Value)
  | [], () => []
  | f :: fs, (value, rest) => (f.name, f.codec.write value) :: Record.members fs rest

namespace Codec

variable {α : Type}

def record (fs : List Field) (build : Record fs → α) (split : α → Record fs) : Codec α where
  read := build <$> readRecord fs
  write a := .object ((split a).members fs)

end Codec

/-- One of several named forms: a bare name, or a name that goes with a value. -/
inductive Variant (α : Type) where
  | bare (name : String) (value : α)
  | holding (name : String) (read : Reader α)

namespace Variant

variable {α : Type}

def name : Variant α → String
  | .bare name _ => name
  | .holding name _ => name

def find? (variants : List (Variant α)) (name : String) : Option (Variant α) :=
  variants.find? fun v ↦ v.name == name

def readHeld : Variant α → Reader α
  | .bare _ value => do
    let c ← begin
    if c = 'n' then
      skip
      expectAll "ull".toList
      return value
    else wrongShape
  | .holding _ read => read

def read (variants : List (Variant α)) : Reader α := do
  match ← begin with
  | '"' =>
    skip
    match find? variants (← Quoted.body) with
    | some (.bare _ value) => return value
    | _ => fail .mismatch
  | '\x7b' =>
    skip
    punctuation '"'
    match find? variants (← Quoted.body) with
    | none => fail .mismatch
    | some variant =>
      punctuation ':'
      let value ← variant.readHeld
      punctuation '\x7d'
      return value
  | _ => fail .malformed

end Variant

end StackDepth.Json
