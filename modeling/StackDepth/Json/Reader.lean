namespace StackDepth.Json

inductive Fault where
  | endOfText
  | malformed
  /-- It is JSON so far, but of another shape than the one wanted. -/
  | mismatch
  deriving DecidableEq, Repr

/-- A value read from the beginning of `s`, and the rest of `s`. -/
structure Read (α : Type) (s : List Char) where
  value : α
  rest : List Char
  le : rest.length ≤ s.length

def Read.widen {α : Type} {s t : List Char} (h : t.length ≤ s.length) (r : Read α t) : Read α s :=
  ⟨r.value, r.rest, Nat.le_trans r.le h⟩

def Reader (α : Type) := (s : List Char) → Except Fault (Read α s)

namespace Reader

variable {α β : Type}

protected def pure (a : α) : Reader α := fun s ↦ .ok ⟨a, s, Nat.le_refl _⟩

protected def bind (r : Reader α) (f : α → Reader β) : Reader β := fun s ↦
  match r s with
  | .error e => .error e
  | .ok a => (f a.value a.rest).map (Read.widen a.le)

instance : Monad Reader where
  pure := Reader.pure
  bind := Reader.bind

def fail (e : Fault) : Reader α := fun _ ↦ .error e

def run (r : Reader α) (s : List Char) : Except Fault (α × List Char) :=
  (r s).map fun a ↦ (a.value, a.rest)

@[simp]
theorem run_pure (a : α) (s : List Char) : (pure a : Reader α).run s = .ok (a, s) := rfl

theorem run_bind (r : Reader α) (f : α → Reader β) (s : List Char) :
    (r >>= f).run s = (r.run s).bind fun a ↦ (f a.1).run a.2 := by
  simp only [run, bind, Reader.bind]
  cases r s with
  | error e => rfl
  | ok a =>
    change ((f a.value a.rest).map _).map _ = (f a.value a.rest).map _
    cases f a.value a.rest <;> rfl

def peek? : Reader (Option Char) := fun s ↦ .ok ⟨s.head?, s, Nat.le_refl _⟩

def takeWhile (p : Char → Bool) : Reader (List Char) := fun s ↦
  .ok ⟨s.takeWhile p, s.dropWhile p, (List.dropWhile_suffix p).length_le⟩

def skip : Reader Unit := fun s ↦ .ok ⟨(), s.tail, by simp⟩

def next : Reader Char := fun s ↦
  match s with
  | [] => .error .endOfText
  | c :: t => .ok ⟨c, t, by simp⟩

def expect (c : Char) : Reader Unit := do
  if (← next) ≠ c then fail .malformed

def expectAll : List Char → Reader Unit
  | [] => pure ()
  | c :: cs => do
    expect c
    expectAll cs

def isBlank (c : Char) : Bool :=
  c == ' ' || c == '\t' || c == '\n' || c == '\r'

def blanks : Reader Unit := do
  let _ ← takeWhile isBlank

def begin : Reader Char := do
  blanks
  match ← peek? with
  | none => fail .endOfText
  | some c => return c

def punctuation (c : Char) : Reader Unit := do
  blanks
  expect c

/-- Reads a whole text. Nothing but blanks may follow the value. -/
def document (r : Reader α) (text : String) : Except Fault α :=
  let whole := do
    let a ← r
    blanks
    match ← peek? with
    | none => return a
    | some _ => fail .malformed
  (whole text.toList).map Read.value

end Reader

end StackDepth.Json
